import StreamPipelines.Call.Basic
import StreamPipelines.Connection.Merge
import StreamPipelines.Feed
import StreamPipelines.Notice
import StreamPipelines.Sequencer

/-!
The store keeps what is known of the connections while calls of the service come and go. A call
begins, waits for its reply and is completed by it; calls may be completed in any order. A list
replaces what is known, unless a list that began later was applied before; an answer to an
assignment is merged into it. Every change is published as a whole.
-/

namespace StreamPipelines

structure Store where
  /-- Nothing is known before the first answer. -/
  connections : Option (List Connection)
  lists : Sequencer
  published : Feed (List Connection)
  deriving DecidableEq

namespace Store

def new : Store :=
  ⟨none, .new, .new⟩

def list : Call (List Connection) :=
  ⟨.connections, none, .list Connection.schema⟩

def assignStream (a : StreamAssignment) : Call Connection :=
  ⟨.assignStream, some (StreamAssignment.schema.encode a), Connection.schema⟩

def assignPipeline (a : PipelineAssignment) : Call (List Connection) :=
  ⟨.assignPipeline, some (PipelineAssignment.schema.encode a), .list Connection.schema⟩

inductive Action where
  | list
  | assignStream (a : StreamAssignment)
  | assignPipeline (a : PipelineAssignment)
  deriving DecidableEq

/-- An action that waits for its reply. -/
inductive Pending where
  | list (token : Token)
  | assignStream (a : StreamAssignment)
  | assignPipeline (a : PipelineAssignment)
  deriving DecidableEq

inductive Answer where
  | connection (c : Connection)
  | connections (cs : List Connection)
  deriving DecidableEq

def Pending.request : Pending → Request
  | .list _ => Store.list.request
  | .assignStream a => (Store.assignStream a).request
  | .assignPipeline a => (Store.assignPipeline a).request

/-- A list takes its token when it begins. -/
def begin (s : Store) : Action → Pending × Store
  | .list =>
      let (token, lists) := s.lists.issue
      (.list token, { s with lists })
  | .assignStream a => (.assignStream a, s)
  | .assignPipeline a => (.assignPipeline a, s)

/-- Makes `cs` what is known, and publishes it. -/
def apply (s : Store) (cs : List Connection) : Store :=
  { s with connections := some cs, published := s.published.publish cs }

/-- A list that was overtaken changes nothing. -/
def applyList (s : Store) (token : Token) (cs : List Connection) : Store :=
  let (isNewest, lists) := s.lists.tryCommit token
  if isNewest then { s with lists }.apply cs else { s with lists }

def applyUpdate (s : Store) (cs : List Connection) : Store :=
  s.apply (Connection.mergeAll (s.connections.getD []) cs).2

structure Completion where
  result : Except CallError Answer
  notices : List Notice
  store : Store

def listFailed (e : CallError) : Notice :=
  .failure "Could not retrieve pipeline connections"
    ("Fetching pipeline connections failed with status: " ++ e.message)

def updateFailed (e : CallError) : Notice :=
  .failure "Could not update pipeline connections"
    ("Updating pipeline connections failed with status: " ++ e.message)

def updated : Notice :=
  .success "Pipeline connections updated successfully"

/-- A list that succeeds is not worth a notice. -/
def completeList (s : Store) (token : Token) : Except CallError (List Connection) → Completion
  | .error e => ⟨.error e, [listFailed e], s⟩
  | .ok cs => ⟨.ok (.connections cs), [], s.applyList token cs⟩

def completeStream (s : Store) : Except CallError Connection → Completion
  | .error e => ⟨.error e, [updateFailed e], s⟩
  | .ok c => ⟨.ok (.connection c), [updated], s.applyUpdate [c]⟩

def completePipeline (s : Store) : Except CallError (List Connection) → Completion
  | .error e => ⟨.error e, [updateFailed e], s⟩
  | .ok cs => ⟨.ok (.connections cs), [updated], s.applyUpdate cs⟩

def complete (s : Store) : Pending → Reply → Completion
  | .list token, reply => s.completeList token (list.read reply)
  | .assignStream a, reply => s.completeStream ((assignStream a).read reply)
  | .assignPipeline a, reply => s.completePipeline ((assignPipeline a).read reply)

end Store
end StreamPipelines
