import StreamPipelines.Wire.Schema

/-!
Decoding a JSON value by a schema. The members of an object are taken in their order, so the
first wrong member is the one that is reported; a record can also come as an array of its fields
in the order of the row, from the end of which fields with a default may be missing.
-/

namespace StreamPipelines

open Json (Mismatch Form Found)

/-- The mismatch of a value that has another form altogether. -/
def wrongForm {α : Type} (wanted : Form) (v : Json) : Except Mismatch α :=
  .error (.wrongType (Found.ofJson v) wanted)

def decodeText : Json → Except Mismatch String
  | .str s => .ok s
  | v => wrongForm .string v

def decodeWord : Json → Except Mismatch UInt64
  | .num n =>
      match n.word? with
      | some w => .ok w
      | none => .error (.notWord n)
  | v => wrongForm .word v

mutual

def Schema.decode : {α : Type} → Schema α → Json → Except Mismatch α
  | _, .text, v => decodeText v
  | _, .word, v => decodeWord v
  | _, .any, v => .ok v
  | _, .table, .obj ms => .ok (Table.ofList ms)
  | _, .table, v => wrongForm .map v
  | _, .textSet, .arr vs => (vs.mapM decodeText).map TextSet.ofList
  | _, .textSet, v => wrongForm .sequence v
  | _, .list item, .arr vs => vs.mapM item.decode
  | _, .list _, v => wrongForm .sequence v
  | _, .option _, .null => .ok none
  | _, .option value, v => (value.decode v).map some
  | _, .nullAs default _, .null => .ok default
  | _, .nullAs _ value, v => value.decode v
  | _, .record name row make _, .arr vs =>
      match row.ofItems name row.size 0 vs with
      | .error cause => .error cause
      | .ok (r, []) => .ok (make r)
      | .ok (_, _ :: _) => .error (.longArray vs.length)
  | _, .record _ row make _, .obj ms =>
      match ms.foldlM (fun slots m => row.put m.1 m.2 slots) row.noSlots with
      | .error cause => .error cause
      | .ok slots => (row.ofSlots slots).map make
  | _, .record name _ _ _, v => wrongForm (.record name) v

/-- Takes one member of an object; a member that is not in the row is passed over. -/
def Row.put : {ρ : Type} → (row : Row ρ) → String → Json → row.Slots →
    Except Mismatch row.Slots
  | _, .nil, _, _, slots => .ok slots
  | _, .field name value _ _ rest, key, v, slots =>
      if key = name then
        match slots.1 with
        | some _ => .error (.repeatedField name)
        | none => (value.decode v).map fun a => (some a, slots.2)
      else (rest.put key v slots.2).map fun more => (slots.1, more)

/-- Takes the fields from the items of an array; `index` counts the fields before these. -/
def Row.ofItems : {ρ : Type} → Row ρ → (record : String) → (fields index : Nat) → List Json →
    Except Mismatch (ρ × List Json)
  | _, .nil, _, _, _, vs => .ok ((), vs)
  | _, .field _ value absent _ rest, record, fields, index, vs =>
      match vs, absent with
      | [], none => .error (.shortArray index record fields)
      | [], some a =>
          (rest.ofItems record fields (index + 1) []).map fun r => ((a, r.1), r.2)
      | v :: vs, _ =>
          match value.decode v with
          | .error cause => .error cause
          | .ok a => (rest.ofItems record fields (index + 1) vs).map fun r => ((a, r.1), r.2)

end

end StreamPipelines
