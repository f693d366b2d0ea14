/-!
Base 64: three bytes become four digits of six bits, and the last group is filled up with equals
signs.
-/

namespace StreamPipelines
namespace Text

def base64Alphabet : List Char :=
  "ABCDEFGHIJKLMNOPQRSTUVWXYZabcdefghijklmnopqrstuvwxyz0123456789+/".toList

def base64Digit (n : Nat) : Char :=
  base64Alphabet.getD (n % 64) '='

def base64Digits : List UInt8 → List Char
  | [] => []
  | [a] =>
      let n := a.toNat * 16
      [base64Digit (n / 64), base64Digit n, '=', '=']
  | [a, b] =>
      let n := (a.toNat * 256 + b.toNat) * 4
      [base64Digit (n / 4096), base64Digit (n / 64), base64Digit n, '=']
  | a :: b :: c :: rest =>
      let n := (a.toNat * 256 + b.toNat) * 256 + c.toNat
      base64Digit (n / 262144) :: base64Digit (n / 4096) :: base64Digit (n / 64) ::
        base64Digit n :: base64Digits rest

def base64 (bytes : List UInt8) : String :=
  String.ofList (base64Digits bytes)

end Text
end StreamPipelines
