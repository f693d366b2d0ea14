import StreamPipelines.CommandLine.Arguments
import StreamPipelines.CommandLine.Dialogue
import StreamPipelines.Connection.Overview
import StreamPipelines.Connection.Store
import StreamPipelines.Simulation.Panel

/-!
The commands as dialogues. A command for connections lists them first and shows what is known of
them in the end; a simulation loads its message first and shows the panel also when the simulation
fails.
-/

namespace StreamPipelines
namespace CommandLine

/-- Why the program fails. -/
inductive Failure where
  | config (cause : ConfigError)
  | call (cause : CallError)
  | simulation (messageId : String)
  deriving DecidableEq

/-- What a command prints, and its failure if it fails. -/
structure Outcome where
  output : String
  failure : Option Failure
  deriving DecidableEq

def Outcome.failed (failure : Failure) : Outcome :=
  ⟨"", some failure⟩

/-- Carries an action of the store through. -/
def perform (s : Store) (a : Store.Action) : Dialogue (Except CallError Store.Answer × Store) := do
  let (pending, s) := s.begin a
  let completion := s.complete pending (← Dialogue.request pending.request)
  Dialogue.notify completion.notices
  return (completion.result, completion.store)

/-- What is shown in the end: the next change since `receiver`, or else all that is known. -/
def currentConnections (s : Store) (receiver : Receiver) : Option (List Connection) :=
  match (s.published.receive receiver).1 with
  | .item connections => some connections
  | .lagged _ | .empty => s.connections

def showConnections (s : Store) (receiver : Receiver) : Outcome :=
  ⟨Connection.overview (currentConnections s receiver), none⟩

/-- Lists the connections, then takes the action `change` if there is one. -/
def runConnections (change : Option Store.Action) : Dialogue Outcome := do
  match ← perform .new .list with
  | (.error cause, _) => return .failed (.call cause)
  | (.ok _, s) =>
      let receiver := s.published.subscribe
      match change with
      | none => return showConnections s receiver
      | some a =>
          match ← perform s a with
          | (.error cause, _) => return .failed (.call cause)
          | (.ok _, s) => return showConnections s receiver

/-- Loads a message. -/
def loadMessage (index id : String) : Dialogue (Except CallError Message) := do
  let loaded := Message.load index id (← Dialogue.request (Message.call index id).request)
  Dialogue.notify (noticesOfFailure Message.loadFailed loaded)
  return loaded

/-- Simulates a message. -/
def simulate (r : SimulationRequest) : Dialogue (Except CallError Simulation) := do
  let call := Simulation.call r
  let outcome := call.read (← Dialogue.request call.request)
  Dialogue.notify (noticesOfFailure Simulation.failed outcome)
  return outcome

/-- Loads a message into a view and simulates it there. -/
def simulateIn (v : View) (m : Message) : Dialogue View := do
  let (pending, v) := v.beginLoad m
  return (v.complete pending.token (← simulate pending.request)).2

def showView (v : View) (messageId : String) : Outcome where
  output := (v.panel.map Panel.text).getD ""
  failure := if v.phase = .error then some (.simulation messageId) else none

def runSimulation (stream : Stream) (index messageId : String) : Dialogue Outcome := do
  match ← loadMessage index messageId with
  | .error cause => return .failed (.call cause)
  | .ok m => return showView (← simulateIn (.new stream) m) messageId

/-- A stream without a title is called by its id. -/
def Command.run : Command → Dialogue Outcome
  | .list => runConnections none
  | .assignStream a => runConnections (some (.assignStream a))
  | .assignPipeline a => runConnections (some (.assignPipeline a))
  | .simulate stream title index messageId =>
      runSimulation ⟨stream, title.getD stream⟩ index messageId

end CommandLine
end StreamPipelines
