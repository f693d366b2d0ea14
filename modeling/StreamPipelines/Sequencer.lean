/-!
Tokens in the order in which requests were begun, to tell on completion whether a newer request
has come before. A sequencer also remembers the newest token that was committed; requests that
never commit, because they fail, do not hold back older ones.
-/

namespace StreamPipelines

structure Token where
  value : UInt64
  deriving DecidableEq

namespace Token

instance : LT Token :=
  ⟨fun a b => a.value < b.value⟩

instance (a b : Token) : Decidable (a < b) :=
  inferInstanceAs (Decidable (a.value < b.value))

instance : Inhabited Token :=
  ⟨⟨0⟩⟩

end Token

structure Sequencer where
  latest : UInt64
  committed : UInt64
  deriving DecidableEq

namespace Sequencer

def new : Sequencer :=
  ⟨0, 0⟩

def issue (s : Sequencer) : Token × Sequencer :=
  (⟨s.latest + 1⟩, { s with latest := s.latest + 1 })

def isLatest (s : Sequencer) (t : Token) : Bool :=
  s.latest == t.value

/-- Commits `t` unless it or a newer token was committed before. -/
def tryCommit (s : Sequencer) (t : Token) : Bool × Sequencer :=
  if s.committed < t.value then (true, { s with committed := t.value }) else (false, s)

end Sequencer
end StreamPipelines
