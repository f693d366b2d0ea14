import StreamPipelines.Text.Hex
import StreamPipelines.Text.Utf8

/-!
Percent encoding. Each part of a URL has a set of printable ASCII characters that are encoded in
it; control characters and everything outside ASCII are encoded in every part. A percent sign is
never encoded, so text that is encoded already stays as it is.
-/

namespace StreamPipelines
namespace Url

def inFragmentSet (c : Char) : Bool :=
  c = ' ' || c = '"' || c = '<' || c = '>' || c = '`'

def inQuerySet (c : Char) : Bool :=
  c = ' ' || c = '"' || c = '#' || c = '<' || c = '>' || c = '\''

def inPathSet (c : Char) : Bool :=
  inFragmentSet c || c = '#' || c = '?' || c = '{' || c = '}'

def inUserInfoSet (c : Char) : Bool :=
  inPathSet c || c = '/' || c = ':' || c = ';' || c = '=' || c = '@' || c = '[' || c = '\\' ||
    c = ']' || c = '^' || c = '|'

/-- The characters that every part encodes. -/
def alwaysEncoded (c : Char) : Bool :=
  c.toNat < 0x20 || 0x7f ≤ c.toNat

def encodedByte (b : UInt8) : List Char :=
  ['%', Text.hexDigitUpper (b.toNat / 16), Text.hexDigitUpper b.toNat]

def encodedChar (set : Char → Bool) (c : Char) : List Char :=
  if alwaysEncoded c || set c then (String.utf8EncodeChar c).flatMap encodedByte else [c]

def percentEncode (set : Char → Bool) (cs : List Char) : List Char :=
  cs.flatMap (encodedChar set)

/-- Replaces every percent sign with two hexadecimal digits behind it by the byte they name. -/
def percentDecode : List UInt8 → List UInt8
  | [] => []
  | [b] => [b]
  | [b, c] => [b, c]
  | b :: c :: d :: rest =>
      if b.toNat = 0x25 then
        match Text.hexValue? (Char.ofNat c.toNat), Text.hexValue? (Char.ofNat d.toNat) with
        | some i, some j => UInt8.ofNat (i * 16 + j) :: percentDecode rest
        | _, _ => b :: percentDecode (c :: d :: rest)
      else b :: percentDecode (c :: d :: rest)

end Url
end StreamPipelines
