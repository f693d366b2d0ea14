import StreamPipelines.Call.Basic
import StreamPipelines.Message.Basic
import StreamPipelines.Notice

/-!
Simulations: what the pipelines of a stream would make of a stored message. Both the loading of
the message and the simulation are calls of their own, which depend on nothing but their inputs.
-/

namespace StreamPipelines

structure Stream where
  id : String
  title : String
  deriving DecidableEq

/-- Which message is to be simulated on which stream. -/
structure SimulationRequest where
  streamId : String
  index : String
  messageId : String
  deriving DecidableEq

def SimulationRequest.schema : Schema SimulationRequest :=
  .record "SimulationRequest"
    (.required "stream_id" .text (.required "index" .text (.required "message_id" .text .nil)))
    (fun (streamId, index, messageId, _) => ⟨streamId, index, messageId⟩)
    (fun r => (r.streamId, r.index, r.messageId, ()))

/-- The messages that come out. -/
structure Simulation where
  messages : List Message
  micros : UInt64
  deriving DecidableEq

namespace Simulation

def schema : Schema Simulation :=
  .record "SimulationResponse"
    (.required "messages" (.list Message.schema) (.defaulted "took_microseconds" .word 0 .nil))
    (fun (messages, micros, _) => ⟨messages, micros⟩)
    (fun s => (s.messages, s.micros, ()))

/-- The message would be dropped if none comes out. -/
def isDropped (s : Simulation) : Bool :=
  s.messages.isEmpty

def call (r : SimulationRequest) : Call Simulation :=
  ⟨.simulate, some (SimulationRequest.schema.encode r), schema⟩

def failed (e : CallError) : Notice :=
  .failure "Could not simulate processing on message"
    ("Simulating processing on message failed with status: " ++ e.message)

end Simulation

namespace Message

def call (index id : String) : Call Message :=
  ⟨.message index id, none, schema⟩

/-- A message that does not name its index is in the one that was asked. -/
def withIndex (m : Message) (index : String) : Message :=
  { m with index := some (m.index.getD index) }

/-- The message that a reply holds. -/
def load (index id : String) (reply : Reply) : Except CallError Message :=
  ((call index id).read reply).map (·.withIndex index)

def loadFailed (e : CallError) : Notice :=
  .failure "Could not load message" ("Loading message failed with status: " ++ e.message)

end Message

/-- The notice of a call of which only failures are worth one. -/
def noticesOfFailure {α : Type} (failed : CallError → Notice) : Except CallError α → List Notice
  | .error e => [failed e]
  | .ok _ => []

end StreamPipelines
