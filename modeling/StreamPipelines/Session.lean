import StreamPipelines.Connection.Overview
import StreamPipelines.Connection.Store
import StreamPipelines.Simulation.Panel

/-!
A session keeps the store of connections and one view while any number of calls are under way. Calls
begin under a name and are completed in any order; receivers follow the changes of the
connections. The message that was loaded last can be taken into the view.
-/

namespace StreamPipelines
namespace Session

inductive Action where
  | store (a : Store.Action)
  | simulate (r : SimulationRequest)
  | load (index id : String)
  deriving DecidableEq

/-- A call that waits for its reply. -/
inductive Pending where
  | store (p : Store.Pending)
  | simulate (r : SimulationRequest)
  | load (index id : String)
  deriving DecidableEq

inductive Answer where
  | store (a : Store.Answer)
  | simulation (s : Simulation)
  | message (m : Message)
  deriving DecidableEq

def Pending.request : Pending → Request
  | .store p => p.request
  | .simulate r => (Simulation.call r).request
  | .load index id => (Message.call index id).request

end Session

structure Session where
  store : Store
  view : View
  receivers : List Receiver
  /-- The calls under way, by their names. -/
  running : List (String × Session.Pending)
  loaded : Option Message
  loads : List PendingSimulation

namespace Session

def new (stream : Stream) : Session :=
  ⟨.new, .new stream, [], [], none, []⟩

def beginCall (s : Session) : Action → Pending × Session
  | .store a =>
      let (p, store) := s.store.begin a
      (.store p, { s with store })
  | .simulate r => (.simulate r, s)
  | .load index id => (.load index id, s)

structure Completion where
  result : Except CallError Answer
  notices : List Notice
  session : Session

def completeCall (s : Session) : Pending → Reply → Completion
  | .store p, reply =>
      let c := s.store.complete p reply
      ⟨c.result.map .store, c.notices, { s with store := c.store }⟩
  | .simulate r, reply =>
      let outcome := (Simulation.call r).read reply
      ⟨outcome.map .simulation, noticesOfFailure Simulation.failed outcome, s⟩
  | .load index id, reply =>
      let message := Message.load index id reply
      ⟨message.map .message, noticesOfFailure Message.loadFailed message,
        { s with loaded := message.toOption.or s.loaded }⟩

inductive Step where
  /-- A call that is answered at once. -/
  | perform (a : Action) (reply : Reply)
  | start (name : String) (a : Action)
  | finish (name : String) (reply : Reply)
  | subscribe
  | receive (receiver : Nat)
  | overview
  /-- Without a message, the one that was loaded last is meant. -/
  | beginLoad (m : Option Message)
  | complete (load : Nat) (reply : Reply)
  | viewLoad (m : Option Message) (reply : Reply)
  | render

inductive Result where
  | answer (result : Except CallError Answer)
  | started
  | receiver (number : Nat)
  | received (r : Received (List Connection))
  | text (s : String)
  | pending (p : PendingSimulation)
  | completed (taken : Bool)
  | phase (p : View.Phase)
  | panel (p : Option Panel)
  /-- The step is about something that does not exist. -/
  | unknown

/-- What a step did: the requests that it sent, the notices that it gave, and the session after
it. -/
structure Effect where
  result : Result
  requests : List Request
  notices : List Notice
  session : Session

def quiet (result : Result) (s : Session) : Effect :=
  ⟨result, [], [], s⟩

def unchanged (s : Session) : Effect :=
  quiet .unknown s

def finishCall (s : Session) (p : Pending) (reply : Reply) : Effect :=
  let c := s.completeCall p reply
  ⟨.answer c.result, [], c.notices, c.session⟩

def performCall (s : Session) (a : Action) (reply : Reply) : Effect :=
  let (p, s) := s.beginCall a
  { s.finishCall p reply with requests := [p.request] }

def startCall (s : Session) (name : String) (a : Action) : Effect :=
  let (p, s) := s.beginCall a
  ⟨.started, [p.request], [], { s with running := (name, p) :: s.running }⟩

def finishNamed (s : Session) (name : String) (reply : Reply) : Effect :=
  match s.running.lookup name with
  | none => s.unchanged
  | some p =>
      { s with running := s.running.filter (·.1 ≠ name) }.finishCall p reply

def receive (s : Session) (number : Nat) : Effect :=
  match s.receivers[number]? with
  | none => s.unchanged
  | some r =>
      let (received, r) := s.store.published.receive r
      quiet (.received received) { s with receivers := s.receivers.set number r }

def beginLoad (s : Session) (m : Option Message) : Effect :=
  match m.or s.loaded with
  | none => s.unchanged
  | some m =>
      let (pending, view) := s.view.beginLoad m
      quiet (.pending pending) { s with view, loads := s.loads ++ [pending] }

def completeLoad (s : Session) (load : Nat) (reply : Reply) : Effect :=
  match s.loads[load]? with
  | none => s.unchanged
  | some p =>
      let (taken, view) := s.view.complete p.token ((Simulation.call p.request).read reply)
      quiet (.completed taken) { s with view }

def viewLoad (s : Session) (m : Option Message) (reply : Reply) : Effect :=
  match m.or s.loaded with
  | none => s.unchanged
  | some m =>
      let (pending, view) := s.view.beginLoad m
      let call := Simulation.call pending.request
      let outcome := call.read reply
      let view := (view.complete pending.token outcome).2
      ⟨.phase view.phase, [call.request], noticesOfFailure Simulation.failed outcome,
        { s with view }⟩

def step (s : Session) : Step → Effect
  | .perform a reply => s.performCall a reply
  | .start name a => s.startCall name a
  | .finish name reply => s.finishNamed name reply
  | .subscribe =>
      quiet (.receiver s.receivers.length)
        { s with receivers := s.receivers ++ [s.store.published.subscribe] }
  | .receive receiver => s.receive receiver
  | .overview => quiet (.text (Connection.overview s.store.connections)) s
  | .beginLoad m => s.beginLoad m
  | .complete load reply => s.completeLoad load reply
  | .viewLoad m reply => s.viewLoad m reply
  | .render => quiet (.panel s.view.panel) s

end Session
end StreamPipelines
