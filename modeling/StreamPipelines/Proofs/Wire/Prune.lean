import StreamPipelines.Proofs.Wire.Accept

/-!
Members that a schema does not name. A value is pruned by leaving them out, in the value itself and
in all that the schema describes below it. What is decoded stays the same, and so does a mismatch.
-/

namespace StreamPipelines

mutual

/-- The value without the members that the schema does not name, at any depth. -/
def Schema.prune : {α : Type} → Schema α → Json → Json
  | _, .list item, .arr vs => .arr (vs.map item.prune)
  | _, .option value, v | _, .nullAs _ value, v => value.prune v
  | _, .record _ row _ _, .arr vs => .arr (row.pruneItems vs)
  | _, .record _ row _ _, .obj ms =>
      .obj (ms.filterMap fun m => (row.prune? m.1 m.2).map fun v => (m.1, v))
  | _, .text, v | _, .word, v | _, .any, v | _, .table, v | _, .textSet, v | _, .list _, v
  | _, .record .., v => v

def Row.pruneItems : {ρ : Type} → Row ρ → List Json → List Json
  | _, .nil, vs => vs
  | _, .field .., [] => []
  | _, .field _ value _ _ rest, v :: vs => value.prune v :: rest.pruneItems vs

/-- A member that the row names, with its value pruned. -/
def Row.prune? : {ρ : Type} → Row ρ → String → Json → Option Json
  | _, .nil, _, _ => none
  | _, .field name value _ _ rest, key, v =>
      if key = name then some (value.prune v) else rest.prune? key v

end

namespace Schema

theorem prune_null : {α : Type} → (s : Schema α) → s.prune .null = .null
  | _, .text | _, .word | _, .any | _, .table | _, .textSet | _, .list _ | _, .record .. => rfl
  | _, .option value => prune_null value
  | _, .nullAs _ value => prune_null value

theorem prune_ne_null : {α : Type} → (s : Schema α) → {v : Json} → v ≠ .null → s.prune v ≠ .null
  | _, .text, _, h | _, .word, _, h | _, .any, _, h | _, .table, _, h | _, .textSet, _, h => h
  | _, .list _, .arr _, _ | _, .record .., .arr _, _ | _, .record .., .obj _, _ => nofun
  | _, .list _, .null, h | _, .list _, .bool _, h | _, .list _, .num _, h | _, .list _, .str _, h
  | _, .list _, .obj _, h | _, .record .., .null, h | _, .record .., .bool _, h
  | _, .record .., .num _, h | _, .record .., .str _, h => h
  | _, .option value, _, h => prune_ne_null value h
  | _, .nullAs _ value, _, h => prune_ne_null value h

/-- Null is decoded alike by all values below, so only the others are pruned. -/
theorem decode_prune_option {α : Type} {value : Schema α}
    (same : ∀ v, value.decode (value.prune v) = value.decode v) (v : Json) :
    (Schema.option value).decode (value.prune v) = (Schema.option value).decode v := by
  by_cases null : v = .null
  · rw [null, prune_null]
  · rw [decode_option_of_ne null, decode_option_of_ne (value.prune_ne_null null), same]

theorem decode_prune_nullAs {α : Type} {value : Schema α} (default : α)
    (same : ∀ v, value.decode (value.prune v) = value.decode v) (v : Json) :
    (Schema.nullAs default value).decode (value.prune v) =
      (Schema.nullAs default value).decode v := by
  by_cases null : v = .null
  · rw [null, prune_null]
  · rw [decode_nullAs_of_ne null, decode_nullAs_of_ne (value.prune_ne_null null), same]

end Schema

namespace Row

variable {ρ : Type}

theorem length_pruneItems : {ρ : Type} → (row : Row ρ) → (vs : List Json) →
    (row.pruneItems vs).length = vs.length
  | _, .nil, _ => rfl
  | _, .field .., [] => rfl
  | _, .field _ _ _ _ rest, _ :: vs => congrArg (· + 1) (length_pruneItems rest vs)

/-- A member that is left out changes nothing when it arrives. -/
theorem foldlM_put_prune {row : Row ρ}
    (same : ∀ key v slots, ((row.prune? key v).elim (.ok slots) fun w => row.put key w slots) =
      row.put key v slots) (ms : List (String × Json)) (slots : row.Slots) :
    (ms.filterMap fun m => (row.prune? m.1 m.2).map fun v => (m.1, v)).foldlM
        (fun slots m => row.put m.1 m.2 slots) slots =
      ms.foldlM (fun slots m => row.put m.1 m.2 slots) slots := by
  induction ms generalizing slots with
  | nil => rfl
  | cons m ms ih =>
      rw [List.foldlM_cons, ← same]
      cases pruned : row.prune? m.1 m.2 with
      | none =>
          rw [List.filterMap_cons_none (by rw [pruned]; rfl)]
          exact ih slots
      | some v =>
          rw [List.filterMap_cons_some (by rw [pruned]; rfl), List.foldlM_cons]
          exact bind_congr ih

end Row

mutual

theorem Schema.decode_prune : {α : Type} → (s : Schema α) → (v : Json) →
    s.decode (s.prune v) = s.decode v
  | _, .text, _ | _, .word, _ | _, .any, _ | _, .table, _ | _, .textSet, _ => rfl
  | _, .list item, .arr vs => by
      have items : item.decode ∘ item.prune = item.decode := funext (Schema.decode_prune item)
      show (vs.map item.prune).mapM item.decode = vs.mapM item.decode
      rw [List.mapM_map, items]
  | _, .list _, .null | _, .list _, .bool _ | _, .list _, .num _ | _, .list _, .str _
  | _, .list _, .obj _ => rfl
  | _, .option value, v => Schema.decode_prune_option (Schema.decode_prune value) v
  | _, .nullAs default value, v =>
      Schema.decode_prune_nullAs default (Schema.decode_prune value) v
  | _, .record name row make _, .arr vs => by
      show (match row.ofItems name row.size 0 (row.pruneItems vs) with
        | .error cause => Except.error cause
        | .ok (r, []) => .ok (make r)
        | .ok (_, _ :: _) => .error (.longArray (row.pruneItems vs).length)) = _
      rw [Row.ofItems_prune row, row.length_pruneItems]
      rfl
  | _, .record _ row make _, .obj ms => by
      have arrived := Row.foldlM_put_prune (Row.put_prune row) ms row.noSlots
      show (match (ms.filterMap fun m => (row.prune? m.1 m.2).map fun v => (m.1, v)).foldlM
          (fun slots m => row.put m.1 m.2 slots) row.noSlots with
        | .error cause => Except.error cause
        | .ok slots => (row.ofSlots slots).map make) = _
      rw [arrived]
      rfl
  | _, .record .., .null | _, .record .., .bool _ | _, .record .., .num _
  | _, .record .., .str _ => rfl

theorem Row.ofItems_prune : {ρ : Type} → (row : Row ρ) → (record : String) →
    (fields index : Nat) → (vs : List Json) →
    row.ofItems record fields index (row.pruneItems vs) = row.ofItems record fields index vs
  | _, .nil, _, _, _, _ => rfl
  | _, .field .., _, _, _, [] => rfl
  | _, .field _ value _ _ rest, record, fields, index, v :: vs => by
      show (Row.field _ value _ _ rest).ofItems record fields index
        (value.prune v :: rest.pruneItems vs) = _
      rw [Row.ofItems_cons, Row.ofItems_cons, Schema.decode_prune value, Row.ofItems_prune rest]

theorem Row.put_prune : {ρ : Type} → (row : Row ρ) → (key : String) → (v : Json) →
    (slots : row.Slots) →
    ((row.prune? key v).elim (.ok slots) fun w => row.put key w slots) = row.put key v slots
  | _, .nil, _, _, _ => rfl
  | _, .field name value absent omitNull rest, key, v, slots => by
      by_cases same : key = name
      · have kept : (Row.field name value absent omitNull rest).prune? key v =
            some (value.prune v) := if_pos same
        rw [kept, Option.elim_some, Row.put, Row.put, if_pos same, if_pos same,
          Schema.decode_prune value]
      · have passed : (Row.field name value absent omitNull rest).prune? key v =
            rest.prune? key v := if_neg same
        have later := Row.put_prune rest key v slots.2
        have put (w : Json) : (Row.field name value absent omitNull rest).put key w slots =
            (rest.put key w slots.2).map fun more => (slots.1, more) := if_neg same
        rw [passed, put, ← later]
        cases rest.prune? key v with
        | none => rfl
        | some w => exact put w

end

end StreamPipelines
