/-!
A feed keeps everything that was published, in order; only the newest few items can still be
received. A receiver is a place in the history: it starts at the end and moves on with each item.
One that has fallen behind is told once how many items it has lost.
-/

namespace StreamPipelines

structure Feed (α : Type) where
  history : List α
  deriving DecidableEq

/-- The number of items that have been received or lost. -/
structure Receiver where
  next : Nat
  deriving DecidableEq

inductive Received (α : Type) where
  | item (a : α)
  | lagged (lost : Nat)
  | empty
  deriving DecidableEq

namespace Feed

variable {α : Type}

/-- How many of the newest items can be received. -/
def capacity : Nat :=
  32

def new : Feed α :=
  ⟨[]⟩

def publish (f : Feed α) (a : α) : Feed α :=
  ⟨f.history ++ [a]⟩

def subscribe (f : Feed α) : Receiver :=
  ⟨f.history.length⟩

/-- The place of the oldest item that can be received. -/
def oldest (f : Feed α) : Nat :=
  f.history.length - capacity

def receive (f : Feed α) (r : Receiver) : Received α × Receiver :=
  if r.next < f.oldest then (.lagged (f.oldest - r.next), ⟨f.oldest⟩)
  else
    match f.history[r.next]? with
    | some a => (.item a, ⟨r.next + 1⟩)
    | none => (.empty, r)

end Feed
end StreamPipelines
