import StreamPipelines.Environment

/-!
The value of a setting. Quotes and backslashes keep characters from their meaning, single quotes
all of them; a dollar sign refers to a variable; a blank outside quotes ends the value, and only
a comment may follow.
-/

namespace StreamPipelines
namespace Settings

/-- Where in a value its reader is; `quoted` says whether it is within double quotes. -/
inductive ValueState where
  | text (quoted : Bool)
  | escaped (quoted : Bool)
  | single
  /-- Behind a dollar sign and the beginning of a name, which is kept in reverse. -/
  | reference (quoted : Bool) (name : List Char)
  | braced (quoted : Bool) (name : List Char)
  | ended
  deriving DecidableEq

/-- The text of a variable that is referred to; one that is not set has none. -/
def variableChars (env : Environment) (name : List Char) : List Char :=
  ((env.text? (String.ofList name.reverse)).getD "").toList

/-- What a character means behind a backslash. -/
def unescape? (c : Char) : Option Char :=
  if c = 'n' then some '\n'
  else if c = '\\' || c = '\'' || c = '"' || c = '$' || c = ' ' then some c
  else none

namespace ValueState

/-- A character outside single quotes. -/
def textStep (quoted : Bool) (c : Char) : List Char × ValueState :=
  if c = '$' then ([], .reference quoted [])
  else if c = '\\' then ([], .escaped quoted)
  else if c = '"' then ([], .text (!quoted))
  else if quoted then ([c], .text true)
  else if c = '\'' then ([], .single)
  else if c = ' ' || c = '\t' then ([], .ended)
  else ([c], .text false)

/-- The character behind a reference belongs to the value, whatever it is. -/
def referenceStep (env : Environment) (quoted : Bool) (name : List Char) (c : Char) :
    List Char × ValueState :=
  if c.isAlphanum then ([], .reference quoted (c :: name))
  else if c = '\x7b' && name.isEmpty then ([], .braced quoted [])
  else if c = '$' then (variableChars env name, .reference quoted [])
  else (variableChars env name ++ [c], .text quoted)

/-- The text that a character adds to the value, and the state behind it. -/
def step (env : Environment) : ValueState → Char → Option (List Char × ValueState)
  | .text quoted, c => some (textStep quoted c)
  | .escaped quoted, c => (unescape? c).map fun c => ([c], .text quoted)
  | .single, c => some (if c = '\'' then ([], .text false) else ([c], .single))
  | .reference quoted name, c => some (referenceStep env quoted name c)
  | .braced quoted name, c =>
      some (if c = '\x7d' then (variableChars env name, .text quoted)
        else ([], .braced quoted (c :: name)))
  | .ended, c => if c = ' ' || c = '\t' then some ([], .ended) else none

/-- The text that the end of the value adds, if the value may end here. -/
def finish (env : Environment) : ValueState → Option (List Char)
  | .text false | .escaped false | .ended => some []
  | .reference false name => some (variableChars env name)
  | _ => none

end ValueState

def readValueFrom (env : Environment) : ValueState → List Char → Option (List Char)
  | state, [] => state.finish env
  | .ended, '#' :: _ => some []
  | state, c :: cs =>
      match state.step env c with
      | none => none
      | some (text, state) => (readValueFrom env state cs).map (text ++ ·)

/-- The value that `cs` stands for; one that begins with a number sign is left out. -/
def readValue (env : Environment) (cs : List Char) : Option (List Char) :=
  if cs.head? = some '#' then some [] else readValueFrom env (.text false) cs

end Settings
end StreamPipelines
