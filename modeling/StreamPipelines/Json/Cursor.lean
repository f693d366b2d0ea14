import StreamPipelines.Json.Mismatch

/-!
Places in a JSON text and the failures that are reported there. Lines count from one; a column is
the number of bytes of the line that lie before the place, so a character outside ASCII counts
more than once.
-/

namespace StreamPipelines
namespace Json

structure Position where
  line : Nat
  column : Nat
  deriving DecidableEq

namespace Position

def start : Position :=
  ⟨1, 0⟩

/-- The place after `bytes` bytes of the character, or after the line that it ends. -/
def skip (p : Position) (c : Char) (bytes : Nat) : Position :=
  if c = '\n' then ⟨p.line + 1, 0⟩ else ⟨p.line, p.column + bytes⟩

def after (p : Position) (c : Char) : Position :=
  p.skip c c.utf8Size

def afterAll (p : Position) (cs : List Char) : Position :=
  cs.foldl after p

/-- The place `bytes` bytes on, which may lie inside a character. -/
def afterBytes (p : Position) : Nat → List Char → Position
  | 0, _ => p
  | _ + 1, [] => p
  | bytes + 1, c :: cs =>
      if c.utf8Size ≤ bytes + 1 then (p.after c).afterBytes (bytes + 1 - c.utf8Size) cs
      else p.skip c (bytes + 1)
termination_by _ cs => cs.length

end Position

/-- What is wrong with a text that is not JSON. -/
inductive Malformed where
  | endInValue
  | endInString
  | endInList
  | endInObject
  | noColon
  | noListComma
  | noObjectComma
  | badWord
  | noValue
  | badEscape
  | badNumber
  | numberOutOfRange
  | controlCharacter
  | keyNotString
  | loneSurrogate
  | hexEscapeEnd
  | trailingComma
  | trailingCharacters
  | tooDeep
  deriving DecidableEq

def Malformed.message : Malformed → String
  | .endInValue => "EOF while parsing a value"
  | .endInString => "EOF while parsing a string"
  | .endInList => "EOF while parsing a list"
  | .endInObject => "EOF while parsing an object"
  | .noColon => "expected `:`"
  | .noListComma => "expected `,` or `]`"
  | .noObjectComma => "expected `,` or `\x7d`"
  | .badWord => "expected ident"
  | .noValue => "expected value"
  | .badEscape => "invalid escape"
  | .badNumber => "invalid number"
  | .numberOutOfRange => "number out of range"
  | .controlCharacter => "control character (\\u0000-\\u001F) found while parsing a string"
  | .keyNotString => "key must be a string"
  | .loneSurrogate => "lone leading surrogate in hex escape"
  | .hexEscapeEnd => "unexpected end of hex escape"
  | .trailingComma => "trailing comma"
  | .trailingCharacters => "trailing characters"
  | .tooDeep => "recursion limit exceeded"

/-- A text can fail to be JSON, or be JSON of the wrong form. -/
inductive Fault where
  | malformed (cause : Malformed)
  | mismatch (cause : Mismatch)
  deriving DecidableEq

def Fault.message : Fault → String
  | .malformed cause => cause.message
  | .mismatch cause => cause.message

structure Failure where
  fault : Fault
  position : Position
  deriving DecidableEq

def Failure.message (f : Failure) : String :=
  f.fault.message ++ " at line " ++ Text.natText f.position.line ++
    " column " ++ Text.natText f.position.column

/-- What is left of a text, and where that begins. -/
structure Cursor where
  rest : List Char
  position : Position
  deriving DecidableEq

namespace Cursor

def ofChars (cs : List Char) : Cursor :=
  ⟨cs, .start⟩

def ofText (s : String) : Cursor :=
  ofChars s.toList

def next (c : Cursor) : Cursor :=
  match c.rest with
  | [] => c
  | x :: rest => ⟨rest, c.position.after x⟩

def mismatch {α : Type} (c : Cursor) (cause : Mismatch) : Except Failure α :=
  .error ⟨.mismatch cause, c.position⟩

/-- Fails at the place of the cursor. -/
def fail {α : Type} (c : Cursor) (cause : Malformed) : Except Failure α :=
  .error ⟨.malformed cause, c.position⟩

/-- Fails one byte later, that is behind the byte at fault, if the text does not end here. -/
def failNext {α : Type} (c : Cursor) (cause : Malformed) : Except Failure α :=
  match c.rest with
  | [] => c.fail cause
  | x :: _ => .error ⟨.malformed cause, c.position.skip x 1⟩

def isSpace (c : Char) : Bool :=
  c = ' ' || c = '\n' || c = '\t' || c = '\r'

def skipSpaceFrom : List Char → Position → Cursor
  | [], p => ⟨[], p⟩
  | x :: rest, p => if isSpace x then skipSpaceFrom rest (p.after x) else ⟨x :: rest, p⟩

/-- The four characters of JSON white space are passed over. -/
def skipSpace (c : Cursor) : Cursor :=
  skipSpaceFrom c.rest c.position

end Cursor
end Json
end StreamPipelines
