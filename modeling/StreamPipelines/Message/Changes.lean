import StreamPipelines.Message.Basic
import StreamPipelines.TextSet

/-!
What a simulation has changed in a message: the visible fields whose texts differ, or which only
one of the two messages has, in the order of their names.
-/

namespace StreamPipelines

/-- A field with its text before and after. -/
structure Change where
  field : String
  old : Option String
  new : Option String
  deriving DecidableEq

inductive Change.Kind where
  | added
  | removed
  | changed
  deriving DecidableEq

namespace Change

def kind (c : Change) : Kind :=
  match c.old, c.new with
  | none, some _ => .added
  | some _, none => .removed
  | _, _ => .changed

def line (c : Change) : String :=
  let old := c.old.getD ""
  let new := c.new.getD ""
  match c.kind with
  | .added => "+ " ++ c.field ++ ": " ++ new
  | .removed => "- " ++ c.field ++ ": " ++ old
  | .changed => "~ " ++ c.field ++ ": " ++ old ++ " -> " ++ new

def ofTables (old new : Table String) (field : String) : Option Change :=
  if old.get? field = new.get? field then none
  else some ⟨field, old.get? field, new.get? field⟩

/-- The changes from one table to another. -/
def between (old new : Table String) : List Change :=
  (TextSet.ofList (old.names ++ new.names)).items.filterMap (ofTables old new)

end Change

def Message.changes (loaded simulated : Message) : List Change :=
  Change.between loaded.visibleTexts simulated.visibleTexts

end StreamPipelines
