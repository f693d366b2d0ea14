import StreamPipelines.Connection.Overview
import StreamPipelines.Message.Changes
import StreamPipelines.Message.Preview
import StreamPipelines.Simulation.View
import StreamPipelines.Text.Lines

/-!
The panel puts the loaded message beside what the pipelines make of it: the outcome, an error if
there was one, and the fields that the first resulting message has otherwise.
-/

namespace StreamPipelines

/-- What takes the place of the simulated messages. -/
inductive Pane where
  | loading
  | dropped
  | messages (ms : List Message)
  | empty
  deriving DecidableEq

structure ErrorNotice where
  title : String
  detail : String
  deriving DecidableEq

structure Panel where
  loaded : Option Message
  status : String
  error : Option ErrorNotice
  simulation : Pane
  changes : List Change
  deriving DecidableEq

namespace Panel

def statusOf (l : Load) : String :=
  if l.isLoading then "Simulating message processing, please wait a moment."
  else
    match l.simulation with
    | some s =>
        "These are the results of processing the loaded message. Processing took " ++
          Text.elapsed s.micros ++ "."
    | none => "No simulation results are available for the loaded message."

def errorOf (stream : Stream) (l : Load) (e : CallError) : ErrorNotice where
  title := "Error simulating message processing"
  detail :=
    "Could not simulate processing of message " ++ l.message.id ++ " in stream " ++
      stream.title ++ ".\nPlease try loading the message again, or use another message for " ++
      "the simulation.\n(" ++ e.message ++ ")"

def paneOf (l : Load) : Pane :=
  if l.isLoading then .loading
  else
    match l.simulation with
    | some s => if s.isDropped then .dropped else .messages s.messages
    | none => .empty

def changesOf (l : Load) : List Change :=
  match l.simulation.bind (·.messages.head?) with
  | some first => l.message.changes first
  | none => []

def ofLoad (stream : Stream) (l : Load) : Panel where
  loaded := some l.message
  status := statusOf l
  error := l.error.map (errorOf stream l)
  simulation := paneOf l
  changes := changesOf l

def errorText (e : ErrorNotice) : String :=
  "[error] " ++ e.title ++ "\n" ++
    String.join ((Text.lines e.detail).map fun line => "  " ++ line ++ "\n")

def droppedText : String :=
  "[info] Message would be dropped\n  Processing the loaded message would drop it from the " ++
    "system. That means that the message would not be stored, and would not be available on " ++
    "searches, alerts, or dashboards.\n"

def paneText : Pane → String
  | .loading => loadingText ++ "\n"
  | .dropped => droppedText
  | .messages ms => String.join (ms.map Message.preview)
  | .empty => ""

def changesText (cs : List Change) : String :=
  if cs.isEmpty then ""
  else "\n== Changes\n" ++ String.join (cs.map fun c => c.line ++ "\n")

def text (p : Panel) : String :=
  "== Original message\nThis is the original message loaded from Graylog.\n" ++
    (p.loaded.map Message.preview).getD "" ++
    "\n== Simulation results\n" ++ p.status ++ "\n" ++
    (p.error.map errorText).getD "" ++ paneText p.simulation ++ changesText p.changes

end Panel

/-- There is nothing to show before the first load. -/
def View.panel (v : View) : Option Panel :=
  v.load.map (Panel.ofLoad v.stream)

end StreamPipelines
