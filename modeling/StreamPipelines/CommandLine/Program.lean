import StreamPipelines.CommandLine.Report

/-!
The program as a whole: arguments, environment and settings file decide whether it starts and with
which client; what it comes to gives its exit status and the texts on its two outputs.
-/

namespace StreamPipelines
namespace CommandLine

/-- How the program starts. -/
inductive Start where
  | misused
  | failed (failure : Failure)
  | running (client : Client) (dialogue : Dialogue Outcome)

def start (arguments : List String) (env : Environment) : Start :=
  match Arguments.parse arguments with
  | none => .misused
  | some a =>
      match a.options.config env with
      | .error cause => .failed (.config cause)
      | .ok config => .running (.ofConfig config) a.command.run

/-- How the program ends. -/
inductive Ending where
  | misused
  | finished (notices : List Notice) (outcome : Outcome)
  deriving DecidableEq

namespace Ending

def exitStatus : Ending → Nat
  | .misused => 2
  | .finished _ outcome => if outcome.failure.isSome then 1 else 0

def output : Ending → String
  | .misused => ""
  | .finished _ outcome => outcome.output

/-- What the user is told besides the output. -/
def errors : Ending → String
  | .misused => "usage: pipeline-console [options] connections|simulate ...\n"
  | .finished notices outcome =>
      String.join (notices.map Notice.text) ++ (outcome.failure.map Failure.report).getD ""

end Ending

/-- A run against a server whose responses are known: the requests it got, and the ending. -/
def Start.serve (responses : List Http.Response) : Start → List Http.Request × Ending
  | .misused => ([], .misused)
  | .failed failure => ([], .finished [] (.failed failure))
  | .running client dialogue =>
      let t := dialogue.serve client responses
      (t.requests, .finished t.notices t.result)

end CommandLine
end StreamPipelines
