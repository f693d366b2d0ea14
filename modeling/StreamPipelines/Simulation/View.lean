import StreamPipelines.Sequencer
import StreamPipelines.Simulation.Basic

/-!
The view shows one message and its simulation on one stream. Each load of a message gets a token;
the outcome of a simulation is taken only with the token of the newest load, so that a slow reply
never changes what belongs to a newer load.
-/

namespace StreamPipelines

/-- The message that was loaded last, and what has become of it so far. -/
structure Load where
  message : Message
  isLoading : Bool
  simulation : Option Simulation
  error : Option CallError
  deriving DecidableEq

def Load.ofMessage (m : Message) : Load :=
  ⟨m, true, none, none⟩

def Load.settle (l : Load) : Except CallError Simulation → Load
  | .ok simulation => { l with simulation := some simulation, isLoading := false }
  | .error e => { l with error := some e, isLoading := false }

/-- A simulation that a load waits for. -/
structure PendingSimulation where
  token : Token
  request : SimulationRequest
  deriving DecidableEq

structure View where
  stream : Stream
  load : Option Load
  requests : Sequencer
  deriving DecidableEq

namespace View

inductive Phase where
  | idle
  | loading
  | result
  | error
  deriving DecidableEq

def new (stream : Stream) : View :=
  ⟨stream, none, .new⟩

/-- What a simulation of the message has to ask for. -/
def simulationRequest (v : View) (m : Message) : SimulationRequest :=
  ⟨v.stream.id, m.index.getD "", m.id⟩

/-- The message becomes the one that is shown, and what was known of another is forgotten. -/
def beginLoad (v : View) (m : Message) : PendingSimulation × View :=
  let (token, requests) := v.requests.issue
  (⟨token, v.simulationRequest m⟩, { v with load := some (.ofMessage m), requests })

/-- Whether the outcome was taken, and the view after it. -/
def complete (v : View) (token : Token) (outcome : Except CallError Simulation) : Bool × View :=
  if v.requests.isLatest token then (true, { v with load := v.load.map (·.settle outcome) })
  else (false, v)

def message (v : View) : Option Message :=
  v.load.map (·.message)

def isLoading (v : View) : Bool :=
  v.load.any (·.isLoading)

def simulation (v : View) : Option Simulation :=
  v.load.bind (·.simulation)

def error (v : View) : Option CallError :=
  v.load.bind (·.error)

def phase (v : View) : Phase :=
  if v.isLoading then .loading
  else if v.error.isSome then .error
  else if v.simulation.isSome then .result
  else .idle

end View
end StreamPipelines
