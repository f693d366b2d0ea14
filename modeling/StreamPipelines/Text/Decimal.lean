/-!
Decimal texts of whole numbers: the digits of a number, the reading of a 64-bit word, and the
grouping of digits by thousands.
-/

namespace StreamPipelines
namespace Text

/-- The decimal digit with value `n % 10`. -/
def digitChar (n : Nat) : Char :=
  Char.ofNat (0x30 + n % 10)

/-- Decimal digits, most significant first; zero has the one digit 0. -/
def digits (n : Nat) : List Char :=
  if n < 10 then [digitChar n] else digits (n / 10) ++ [digitChar n]

def natText (n : Nat) : String :=
  String.ofList (digits n)

def intText (i : Int) : String :=
  if i < 0 then String.ofList ('-' :: digits i.natAbs) else natText i.natAbs

def digitValue? (c : Char) : Option Nat :=
  if '0' ≤ c ∧ c ≤ '9' then some (c.toNat - 0x30) else none

/-- The number that the digits `cs` continue `n` to, while it stays below `bound`. -/
def readDigits (bound : Nat) : Nat → List Char → Option Nat
  | n, [] => some n
  | n, c :: cs =>
      match digitValue? c with
      | none => none
      | some d => if n * 10 + d < bound then readDigits bound (n * 10 + d) cs else none

/-- The number of 64-bit words. -/
def wordBound : Nat :=
  0x10000000000000000

/-- A 64-bit word: one optional plus sign, then at least one decimal digit and nothing else. -/
def readWord? (s : String) : Option UInt64 :=
  let cs := match s.toList with
    | '+' :: cs => cs
    | cs => cs
  match cs with
  | [] => none
  | cs => (readDigits wordBound 0 cs).map UInt64.ofNat

/-- Puts a comma in front of every digit with a positive multiple of three digits from it to
the end, the first digit excepted. -/
def commaEachThree : List Char → List Char
  | [] => []
  | [c] => [c]
  | c :: d :: rest =>
      if (rest.length + 1) % 3 = 0 then c :: ',' :: commaEachThree (d :: rest)
      else c :: commaEachThree (d :: rest)

/-- Digits grouped in thousands: 1,234,567. -/
def grouped (n : UInt64) : String :=
  String.ofList (commaEachThree (digits n.toNat))

/-- A duration in microseconds, as shown to the user. -/
def elapsed (micros : UInt64) : String :=
  grouped micros ++ " µs"

end Text
end StreamPipelines
