import StreamPipelines.Message.Preview
import StreamPipelines.Message.Summary
import StreamPipelines.Proofs.Message.Changes

/-!
What the service keeps in a message for itself never shows: fields whose names begin with `gl2_`,
highlights and decoration. Messages that differ in these alone look the same wherever one of them is
shown, although the summary of each has all the fields that were received.
-/

namespace StreamPipelines
namespace Message

/-- Names that the service gives to fields of its own. -/
def isReserved (name : String) : Bool :=
  "gl2_".toList.isPrefixOf name.toList

/-- The messages differ at most in what the service keeps for itself. -/
structure Resembles (m n : Message) : Prop where
  index : m.index = n.index
  fields : ∀ name, isReserved name = false → m.fields.get? name = n.fields.get? name

variable {m n : Message}

theorem isReserved_eq_false {name : String} (shown : isInternal name = false) :
    isReserved name = false :=
  (Bool.or_eq_false_iff.mp shown).2

theorem get?_visibleFields (m : Message) (name : String) :
    m.visibleFields.get? name = if isInternal name then none else m.fields.get? name := by
  rw [visibleFields, Table.get?_filterNames]
  cases isInternal name <;> rfl

namespace Resembles

theorem fieldText?_eq (h : Resembles m n) {name : String} (shown : isReserved name = false) :
    m.fieldText? name = n.fieldText? name := by
  rw [fieldText?, fieldText?, h.fields name shown]

theorem id_eq (h : Resembles m n) : m.id = n.id :=
  congrArg (·.getD "") (h.fieldText?_eq rfl)

theorem timestamp_eq (h : Resembles m n) : m.timestamp = n.timestamp :=
  h.fieldText?_eq rfl

theorem streamIds_eq (h : Resembles m n) : m.streamIds = n.streamIds := by
  rw [streamIds, streamIds, h.fields "streams" rfl]

theorem visibleFields_eq (h : Resembles m n) : m.visibleFields = n.visibleFields := by
  apply Table.ext_get?
  intro name
  rw [get?_visibleFields, get?_visibleFields]
  cases shown : isInternal name with
  | true => rfl
  | false => exact h.fields name (isReserved_eq_false shown)

theorem visibleTexts_eq (h : Resembles m n) : m.visibleTexts = n.visibleTexts :=
  congrArg (Table.mapValues valueText) h.visibleFields_eq

theorem preview_eq (h : Resembles m n) : m.preview = n.preview := by
  simp only [preview, headLine, receivedLine, streamsLine, fieldLines, h.id_eq, h.index,
    h.timestamp_eq, h.streamIds_eq, h.visibleTexts_eq]

end Resembles

/-- What the summary has under this name. -/
def summaryField? (m : Message) (name : String) : Option Json :=
  match m.summary with
  | .obj entries => Table.lookupEntry name entries
  | _ => none

theorem summaryField?_fields (m : Message) :
    m.summaryField? "fields" = some (.ofTable m.fields) := by
  have looked (t : Table Json) : Table.lookupEntry "fields" t.entries = t.get? "fields" := rfl
  simp only [summaryField?, summary, Json.ofTable, looked, Table.ofList, List.foldl_cons,
    List.foldl_nil, Table.get?_insert]
  simp

/-- Messages that differ only in what the service keeps for itself have the same preview, the same
visible fields and texts, no changes between them, and the same changes to and from any other
message. The summary of each has the fields as they were received. -/
theorem shown_of_resembles (h : Resembles m n) :
    m.preview = n.preview ∧ m.visibleFields = n.visibleFields ∧ m.visibleTexts = n.visibleTexts ∧
    m.changes n = [] ∧
    (∀ other, m.changes other = n.changes other ∧ other.changes m = other.changes n) ∧
    m.summaryField? "fields" = some (.ofTable m.fields) ∧
    n.summaryField? "fields" = some (.ofTable n.fields) := by
  refine ⟨h.preview_eq, h.visibleFields_eq, h.visibleTexts_eq, ?_, fun other => ⟨?_, ?_⟩,
    m.summaryField?_fields, n.summaryField?_fields⟩
  · exact Change.between_eq_nil_iff.mpr h.visibleTexts_eq
  · exact congrArg (Change.between · other.visibleTexts) h.visibleTexts_eq
  · exact congrArg (Change.between other.visibleTexts) h.visibleTexts_eq

/-- One message comes from a node and has highlights, the other one does not. -/
theorem shown_of_resembles_node :
    let fields : Table Json := .ofList [("_id", .str "m1"), ("message", .str "hello")]
    let stored : Message := ⟨fields.insert "gl2_source_node" (.str "node"), some "i",
      .ofList [("message", .arr [])], some .null⟩
    let plain : Message := ⟨fields, some "i", .empty, none⟩
    let other : Message := ⟨.ofList [("message", .str "bye")], none, .empty, none⟩
    Resembles stored plain ∧ stored.sourceNode ≠ plain.sourceNode ∧
      stored.preview = plain.preview ∧ stored.changes plain = [] ∧
      stored.changes other = [⟨"message", some "hello", some "bye"⟩] := by
  intro fields stored plain other
  have resembles : Resembles stored plain := by
    refine ⟨rfl, fun name shown => ?_⟩
    have elsewhere : name ≠ "gl2_source_node" := by
      rintro rfl
      cases shown
    exact (fields.get?_insert "gl2_source_node" name _).trans (if_neg elsewhere)
  obtain ⟨preview, -, -, none, changes, -⟩ := shown_of_resembles resembles
  refine ⟨resembles, by decide, preview, none, ?_⟩
  rw [(changes other).1]
  decide

end Message
end StreamPipelines
