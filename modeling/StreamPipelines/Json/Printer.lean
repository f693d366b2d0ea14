import StreamPipelines.Json.Basic
import StreamPipelines.Text.Hex

/-!
The compact text of a JSON value: no blanks, members in their order, and in strings an escape
only for quotes, back slashes and characters below U+0020.
-/

namespace StreamPipelines
namespace Json

/-- Floating-point numbers are positional from 10⁻⁵ up to below 10¹⁶. -/
def numberLayout : Binary64.Layout :=
  ⟨-5, 16⟩

def Number.text : Number → String
  | .int i _ => Text.intText i
  | .float x => String.ofList (numberLayout.render x)

def escapedChar (c : Char) : List Char :=
  if c = '"' then ['\\', '"']
  else if c = '\\' then ['\\', '\\']
  else if c.toNat = 0x08 then ['\\', 'b']
  else if c.toNat = 0x0c then ['\\', 'f']
  else if c = '\n' then ['\\', 'n']
  else if c = '\r' then ['\\', 'r']
  else if c = '\t' then ['\\', 't']
  else if c.toNat < 0x20 then
    ['\\', 'u', '0', '0', Text.hexDigit (c.toNat / 16), Text.hexDigit c.toNat]
  else [c]

def stringChars (s : String) : List Char :=
  '"' :: s.toList.flatMap escapedChar ++ ['"']

mutual

def chars : Json → List Char
  | .null => "null".toList
  | .bool true => "true".toList
  | .bool false => "false".toList
  | .num n => n.text.toList
  | .str s => stringChars s
  | .arr [] => ['[', ']']
  | .arr (v :: vs) => '[' :: chars v ++ itemChars vs
  | .obj [] => ['{', '}']
  | .obj ((k, v) :: ms) => '{' :: stringChars k ++ ':' :: chars v ++ memberChars ms

/-- The items after the first, and the closing bracket. -/
def itemChars : List Json → List Char
  | [] => [']']
  | v :: vs => ',' :: chars v ++ itemChars vs

def memberChars : List (String × Json) → List Char
  | [] => ['}']
  | (k, v) :: ms => ',' :: stringChars k ++ ':' :: chars v ++ memberChars ms

end

def text (v : Json) : String :=
  String.ofList v.chars

end Json
end StreamPipelines
