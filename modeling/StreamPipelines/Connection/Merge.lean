import StreamPipelines.Connection.Basic

/-!
Bringing connections that the service reports into a collection of connections. A connection
takes the place of the first one of its stream; the connection of a new stream goes to the end.
-/

namespace StreamPipelines

/-- Where a connection went. -/
inductive Merge where
  | replaced (place : Nat)
  | appended (place : Nat)
  deriving DecidableEq

namespace Connection

/-- Puts `c` in the place of the first connection of its stream, or at the end. -/
def update (c : Connection) : List Connection → List Connection
  | [] => [c]
  | d :: ds => if d.streamId = c.streamId then c :: ds else d :: c.update ds

/-- The place of the first connection of a stream. -/
def place? (streamId : String) (cs : List Connection) : Option Nat :=
  cs.findIdx? (·.streamId = streamId)

def merge (cs : List Connection) (c : Connection) : Merge × List Connection :=
  match place? c.streamId cs with
  | some place => (.replaced place, c.update cs)
  | none => (.appended cs.length, c.update cs)

/-- Merges the connections in order, so that of two for one stream the later one stays. -/
def mergeAll (cs : List Connection) : List Connection → List Merge × List Connection
  | [] => ([], cs)
  | c :: incoming =>
      let (report, cs) := merge cs c
      let (reports, cs) := mergeAll cs incoming
      (report :: reports, cs)

theorem snd_merge (cs : List Connection) (c : Connection) : (merge cs c).2 = c.update cs := by
  unfold merge
  split <;> rfl

theorem snd_mergeAll (cs incoming : List Connection) :
    (mergeAll cs incoming).2 = incoming.foldl (fun cs c => c.update cs) cs := by
  induction incoming generalizing cs with
  | nil => rfl
  | cons c incoming ih => simp only [mergeAll, ih, snd_merge, List.foldl_cons]

end Connection
end StreamPipelines
