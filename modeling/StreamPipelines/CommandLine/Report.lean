import StreamPipelines.CommandLine.Commands

/-!
The report of a failure: its message, and behind it the causes, numbered if there are several.
-/

namespace StreamPipelines
namespace CommandLine

namespace Failure

def message : Failure → String
  | .config cause => cause.message
  | .call cause => cause.message
  | .simulation messageId => "simulation failed for message " ++ messageId

def causes : Failure → List String
  | .config _ | .simulation _ => []
  | .call cause => cause.causes

/-- The number of a cause, in a column of five characters. -/
def numberText (n : Nat) : String :=
  let digits := Text.digits n
  String.ofList (List.replicate (5 - digits.length) ' ' ++ digits ++ [':', ' '])

/-- A text of several lines, with blanks before each line but the first. -/
def hanging (blanks text : String) : String :=
  ("\n" ++ blanks).intercalate (text.splitOn "\n")

def numberedCauses : Nat → List String → String
  | _, [] => ""
  | n, cause :: causes =>
      numberText n ++ hanging "       " cause ++ "\n" ++ numberedCauses (n + 1) causes

def causesText : List String → String
  | [] => ""
  | [cause] => "\nCaused by:\n    " ++ hanging "    " cause ++ "\n"
  | causes => "\nCaused by:\n" ++ numberedCauses 0 causes

def report (f : Failure) : String :=
  "Error: " ++ f.message ++ "\n" ++ causesText f.causes

end Failure
end CommandLine
end StreamPipelines
