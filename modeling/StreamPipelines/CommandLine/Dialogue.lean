import StreamPipelines.Client
import StreamPipelines.Notice

/-!
A dialogue is what a command does, apart from how its requests are carried: it asks the service,
tells the user, and comes to an end. Each reply decides how it goes on. To serve a dialogue is to
carry its requests to a server whose responses are known beforehand.
-/

namespace StreamPipelines

inductive Dialogue (α : Type) where
  | done (a : α)
  | tell (notice : Notice) (rest : Dialogue α)
  | ask (request : Request) (next : Reply → Dialogue α)

namespace Dialogue

variable {α β : Type}

def bind : Dialogue α → (α → Dialogue β) → Dialogue β
  | .done a, f => f a
  | .tell notice rest, f => .tell notice (rest.bind f)
  | .ask request next, f => .ask request fun reply => (next reply).bind f

instance : Monad Dialogue where
  pure := .done
  bind := bind

/-- Asks the service and waits for the reply. -/
def request (r : Request) : Dialogue Reply :=
  .ask r .done

/-- Tells the user all of the notices. -/
def notify : List Notice → Dialogue Unit
  | [] => .done ()
  | notice :: notices => .tell notice (notify notices)

/-- What a dialogue comes to, and what was sent and told on the way. -/
structure Transcript (α : Type) where
  requests : List Http.Request
  notices : List Notice
  result : α
  deriving DecidableEq

def Transcript.addRequest (r : Http.Request) (t : Transcript α) : Transcript α :=
  { t with requests := r :: t.requests }

def Transcript.addNotice (notice : Notice) (t : Transcript α) : Transcript α :=
  { t with notices := notice :: t.notices }

/-- The response to a request, from those that are left; behind the last one the server closes
every connection. -/
def nextResponse : List Http.Response → Http.Response × List Http.Response
  | [] => (.closed, [])
  | response :: responses => (response, responses)

/-- Serves a dialogue with a response for each request that can be sent, in order. -/
def serve (client : Client) : Dialogue α → List Http.Response → Transcript α
  | .done a, _ => ⟨[], [], a⟩
  | .tell notice rest, responses => (rest.serve client responses).addNotice notice
  | .ask r next, responses =>
      match client.prepare r with
      | .error cause => (next (.error cause)).serve client responses
      | .ok sent =>
          let (response, responses) := nextResponse responses
          ((next (sent.receive response)).serve client responses).addRequest sent

end Dialogue
end StreamPipelines
