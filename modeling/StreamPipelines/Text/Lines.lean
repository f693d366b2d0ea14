/-!
The lines of a text. A line ends at a line feed, with the carriage return before it if there is
one; a text that ends with a line feed has no empty last line, and a carriage return elsewhere
is an ordinary character.
-/

namespace StreamPipelines
namespace Text

/-- The pieces between line feeds; all but the last were ended by one. -/
def feedPieces : List Char → List Char × List (List Char)
  | [] => ([], [])
  | c :: cs =>
      let (piece, more) := feedPieces cs
      if c = '\n' then ([], piece :: more) else (c :: piece, more)

/-- A line that a line feed ended loses the carriage return before it. -/
def dropReturn (line : List Char) : List Char :=
  match line.reverse with
  | '\r' :: rest => rest.reverse
  | _ => line

def closeLines : List Char → List (List Char) → List (List Char)
  | [], [] => []
  | line, [] => [line]
  | line, next :: more => dropReturn line :: closeLines next more

def lineLists (cs : List Char) : List (List Char) :=
  closeLines (feedPieces cs).1 (feedPieces cs).2

def lines (s : String) : List String :=
  (lineLists s.toList).map String.ofList

end Text
end StreamPipelines
