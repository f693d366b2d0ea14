import StreamPipelines.Proofs.Json.Text
import StreamPipelines.Proofs.Message.Internal

/-!
What the changes between two messages tell about the values of their fields. A change compares the
texts that are shown, and these are the same for different values in one way only: a string may be
just the text of a value of another kind, as the empty string is that of null. Every other
difference of a visible field is a change.
-/

namespace StreamPipelines
namespace Message

/-- One of the values is a string, and this string is the text of the other value. -/
inductive ShownAlike : Json → Json → Prop
  | left {v : Json} : v.kind ≠ .string → ShownAlike (.str (valueText v)) v
  | right {v : Json} : v.kind ≠ .string → ShownAlike v (.str (valueText v))

theorem eq_str_of_kind {v : Json} (string : v.kind = .string) : v = .str (valueText v) := by
  cases v with
  | str s => rfl
  | _ => cases string

/-- Values that are no strings have different texts: that of null is empty, the others are JSON. -/
theorem valueText_inj {v w : Json} (hv : v.kind ≠ .string) (hw : w.kind ≠ .string)
    (same : valueText v = valueText w) : v = w := by
  have text {u : Json} (hu : u.kind ≠ .string) : u = .null ∨ valueText u = u.text := by
    cases u with
    | null => exact .inl rfl
    | str s => exact absurd rfl hu
    | _ => exact .inr rfl
  obtain rfl | vText := text hv
  · obtain rfl | wText := text hw
    · rfl
    · exact absurd (wText.symm.trans same.symm) w.text_ne_empty
  · obtain rfl | wText := text hw
    · exact absurd (vText.symm.trans same) v.text_ne_empty
    · exact Json.text_inj (vText.symm.trans (same.trans wText))

theorem valueText_eq_iff {v w : Json} : valueText v = valueText w ↔ v = w ∨ ShownAlike v w := by
  constructor
  · intro same
    by_cases hv : v.kind = .string
    · have string : v = .str (valueText w) := same ▸ eq_str_of_kind hv
      by_cases hw : w.kind = .string
      · exact .inl (string.trans (eq_str_of_kind hw).symm)
      · exact .inr (string ▸ .left hw)
    · by_cases hw : w.kind = .string
      · have string : w = .str (valueText v) := same ▸ eq_str_of_kind hw
        exact .inr (string ▸ .right hv)
      · exact .inl (valueText_inj hv hw same)
  · rintro (rfl | alike)
    · rfl
    · cases alike <;> rfl

theorem get?_visibleTexts (m : Message) (name : String) :
    m.visibleTexts.get? name =
      if isInternal name then none else (m.fields.get? name).map valueText := by
  rw [visibleTexts, Table.get?_mapValues, get?_visibleFields]
  cases isInternal name <;> rfl

/-- Texts differ where one of them is missing, or where the values differ and do not look alike. -/
theorem map_valueText_ne_iff {a b : Option Json} :
    a.map valueText ≠ b.map valueText ↔
      a ≠ b ∧ ∀ v w, a = some v → b = some w → ¬ShownAlike v w := by
  cases a with
  | none => cases b <;> simp
  | some v =>
      cases b with
      | none => simp
      | some w =>
          have texts : valueText v ≠ valueText w ↔ v ≠ w ∧ ¬ShownAlike v w :=
            valueText_eq_iff.not.trans not_or
          constructor
          · intro differ
            obtain ⟨value, look⟩ := texts.mp fun same => differ (congrArg some same)
            refine ⟨fun same => value (Option.some.inj same), fun v' w' hv hw => ?_⟩
            cases hv
            cases hw
            exact look
          · intro ⟨value, look⟩ same
            have differ := texts.mpr ⟨fun same => value (congrArg some same), look v w rfl rfl⟩
            exact differ (Option.some.inj same)

/-- The changes are those of the visible fields that only one message has, or that have different
values in the two, unless the values are shown alike. -/
theorem mem_fields_changes (loaded simulated : Message) (name : String) :
    name ∈ (loaded.changes simulated).map (·.field) ↔
      isInternal name = false ∧ loaded.fields.get? name ≠ simulated.fields.get? name ∧
      ∀ v w, loaded.fields.get? name = some v → simulated.fields.get? name = some w →
        ¬ShownAlike v w := by
  rw [changes, Change.mem_fields_between, get?_visibleTexts, get?_visibleTexts]
  cases isInternal name with
  | true => simp
  | false => simpa using map_valueText_ne_iff

/-- A status that becomes a number is no change, although its value is another one. -/
theorem changes_number_for_string :
    let loaded : Message := ⟨.ofList [("status", .str "401")], none, .empty, none⟩
    let number : Json := .num (.int 401 (by decide))
    let simulated : Message := ⟨.ofList [("status", number)], none, .empty, none⟩
    isInternal "status" = false ∧ loaded.fields.get? "status" = some (.str "401") ∧
      simulated.fields.get? "status" = some number ∧ (.str "401" : Json) ≠ number ∧
      loaded.changes simulated = [] := by
  intro loaded number simulated
  have digits : Text.digits 401 = ['4', '0', '1'] := by simp [Text.digits, Text.digitChar]
  have natural : Text.natText 401 = "401" := congrArg String.ofList digits
  have text : valueText number = "401" := String.ofList_toList.trans natural
  have table (v : Json) (name : String) :
      (Table.ofList [("status", v)]).get? name = if name = "status" then some v else none :=
    Table.empty.get?_insert "status" name v
  have differ : Json.str "401" ≠ number := by
    intro (same : Json.str "401" = .num _)
    cases same
  refine ⟨by decide, by decide, by decide, differ, Change.between_eq_nil_iff.mpr ?_⟩
  apply Table.ext_get?
  intro name
  rw [get?_visibleTexts, get?_visibleTexts, table, table]
  by_cases status : name = "status"
  · rw [if_pos status, if_pos status, Option.map_some, Option.map_some, text]
    rfl
  · rw [if_neg status, if_neg status]

end Message
end StreamPipelines
