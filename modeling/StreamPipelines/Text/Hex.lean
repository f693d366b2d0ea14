/-!
Hexadecimal digits, in both cases, and the value of a digit.
-/

namespace StreamPipelines
namespace Text

def hexDigit (n : Nat) : Char :=
  if n % 16 < 10 then Char.ofNat (0x30 + n % 16) else Char.ofNat (0x61 + n % 16 - 10)

def hexDigitUpper (n : Nat) : Char :=
  if n % 16 < 10 then Char.ofNat (0x30 + n % 16) else Char.ofNat (0x41 + n % 16 - 10)

/-- Lower-case hexadecimal digits without leading zeros. -/
def hexDigits (n : Nat) : List Char :=
  if n < 16 then [hexDigit n] else hexDigits (n / 16) ++ [hexDigit n]

def hexValue? (c : Char) : Option Nat :=
  if '0' ≤ c ∧ c ≤ '9' then some (c.toNat - 0x30)
  else if 'a' ≤ c ∧ c ≤ 'f' then some (c.toNat - 0x61 + 10)
  else if 'A' ≤ c ∧ c ≤ 'F' then some (c.toNat - 0x41 + 10)
  else none

end Text
end StreamPipelines
