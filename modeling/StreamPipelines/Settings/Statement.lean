import StreamPipelines.Text.Blank

/-!
The statements of a settings file. A statement is a line, or several when a quote is open or a
backslash stands at the end of a line. A number sign behind a blank begins a comment, and so does
one at the beginning of a line; both last to the end of the line.
-/

namespace StreamPipelines
namespace Settings

/-- What the characters so far leave open. -/
inductive Quoting where
  | plain
  /-- Behind a single blank; of two blanks the second one leaves nothing open. -/
  | blank
  | escape
  | double
  | doubleEscape
  | single
  | singleEscape
  deriving DecidableEq

namespace Quoting

def plainStep (c : Char) : Quoting :=
  if c = '\\' then .escape
  else if c = '"' then .double
  else if c = '\'' then .single
  else .plain

def isLineBlank (c : Char) : Bool :=
  Text.isBlank c && c != '\n' && c != '\r'

/-- What is open behind `c`, unless it begins a comment. -/
def step : Quoting → Char → Option Quoting
  | .plain, c => some (if isLineBlank c then .blank else plainStep c)
  | .blank, c => if c = '#' then none else some (plainStep c)
  | .escape, _ => some .plain
  | .double, c => some (if c = '\\' then .doubleEscape else if c = '"' then .plain else .double)
  | .doubleEscape, _ => some .double
  | .single, c => some (if c = '\\' then .singleEscape else if c = '\'' then .plain else .single)
  | .singleEscape, _ => some .single

end Quoting

/-- The line up to a comment, and what is open behind it if there is no comment. -/
def scanLine : Quoting → List Char → List Char × Option Quoting
  | q, [] => ([], some q)
  | q, c :: cs =>
      match q.step c with
      | none => ([], none)
      | some q => (c :: (scanLine q cs).1, (scanLine q cs).2)

/-- The lines with the line feeds that end them. -/
def feedLines : List Char → List (List Char)
  | [] => []
  | c :: cs =>
      if c = '\n' then [c] :: feedLines cs
      else
        match feedLines cs with
        | [] => [[c]]
        | line :: more => (c :: line) :: more

def isComment (line : List Char) : Bool :=
  (line.dropWhile Text.isBlank).head? = some '#'

/-- The statements in `lines`, which begin within the statement `begun` when `q` is not plain. A
statement that the end of the file leaves open is no statement. -/
def statementsFrom (q : Quoting) (begun : List Char) :
    List (List Char) → List (Option (List Char))
  | [] => if q = .plain then [] else [none]
  | line :: more =>
      if begun.isEmpty && isComment line then statementsFrom .plain [] more
      else
        match scanLine q line with
        | (text, none) | (text, some .plain) =>
            some (begun ++ text) :: statementsFrom .plain [] more
        | (text, some q) => statementsFrom q (begun ++ text) more

def statements (cs : List Char) : List (Option (List Char)) :=
  statementsFrom .plain [] (feedLines cs)

end Settings
end StreamPipelines
