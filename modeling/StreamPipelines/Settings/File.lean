import StreamPipelines.Settings.Statement
import StreamPipelines.Settings.Value

/-!
A settings file, which sets variables that have no text yet. A statement is `NAME=value`, perhaps
behind the word `export`; blank statements say nothing. The statements count up to the first one
that is malformed.
-/

namespace StreamPipelines
namespace Settings

/-- What a statement says. -/
inductive Setting where
  | nothing
  | set (name value : String)
  | malformed
  deriving DecidableEq

def dropBlanks (cs : List Char) : List Char :=
  cs.dropWhile Text.isBlank

/-- A name begins with a letter or an underscore. -/
def readName : List Char → Option (List Char × List Char)
  | [] => none
  | c :: cs =>
      if c.isAlpha || c = '_' then
        some ((c :: cs).span fun c => c.isAlphanum || c = '_' || c = '.')
      else none

/-- The text behind an equals sign and the blanks around it. -/
def readEquals (cs : List Char) : Option (List Char) :=
  match dropBlanks cs with
  | '=' :: cs => some (dropBlanks cs)
  | _ => none

/-- The name and the text of the value. -/
def readParts (cs : List Char) : Option (List Char × List Char) := do
  let (name, rest) ← readName cs
  if name = "export".toList ∧ (readEquals rest).isNone then
    let (name, rest) ← readName (dropBlanks rest)
    return (name, ← readEquals rest)
  else return (name, ← readEquals rest)

def readSetting (env : Environment) (statement : List Char) : Setting :=
  let cs := Text.stripChars Text.isBlank statement
  if cs.isEmpty || cs.head? = some '#' then .nothing
  else
    match readParts cs with
    | none => .malformed
    | some (name, text) =>
        match readValue env text with
        | none => .malformed
        | some value => .set (String.ofList name) (String.ofList value)

def apply (env : Environment) : List (Option (List Char)) → Environment
  | [] | none :: _ => env
  | some statement :: more =>
      match readSetting env statement with
      | .nothing => apply env more
      | .malformed => env
      | .set name value =>
          if (env.text? name).isSome then apply env more
          else apply (env.insert name (Text.utf8 value)) more

/-- A byte order mark, which says nothing in a text. -/
def byteOrderMark : Char :=
  '\ufeff'

def dropByteOrderMark (cs : List Char) : List Char :=
  if cs.head? = some byteOrderMark then cs.drop 1 else cs

end Settings

/-- The environment with the settings file `file`, if there is one. -/
def Environment.withFile (env : Environment) : Option String → Environment
  | none => env
  | some file => Settings.apply env (Settings.statements (Settings.dropByteOrderMark file.toList))

end StreamPipelines
