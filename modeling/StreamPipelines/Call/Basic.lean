import StreamPipelines.Call.Error
import StreamPipelines.Wire.Decode

/-!
Calls of the service. A call says which endpoint is asked, with what body, and in what form the
answer comes. A call without a body only reads; one with a body changes or computes something.
-/

namespace StreamPipelines

inductive Method where
  | get
  | post
  deriving DecidableEq

def Method.text : Method → String
  | .get => "GET"
  | .post => "POST"

/-- What is asked of the service, at a path below its base address. -/
structure Request where
  method : Method
  path : String
  body : Option Json
  deriving DecidableEq

/-- What a request comes to. -/
abbrev Reply : Type :=
  Except FetchError Json

structure Call (α : Type) where
  endpoint : Endpoint
  body : Option Json
  answer : Schema α

namespace Call

variable {α : Type}

def request (c : Call α) : Request :=
  ⟨if c.body.isSome then .post else .get, c.endpoint.path, c.body⟩

/-- The answer that a reply holds. -/
def read (c : Call α) : Reply → Except CallError α
  | .error cause => .error (.fetch cause)
  | .ok v => (c.answer.decode v).mapError (.wrongForm c.endpoint)

end Call
end StreamPipelines
