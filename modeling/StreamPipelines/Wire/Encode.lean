import StreamPipelines.Wire.Schema

/-!
Encoding a value by a schema. A record becomes an object with its members in the order of the
names.
-/

namespace StreamPipelines

mutual

def Schema.encode : {α : Type} → Schema α → α → Json
  | _, .text, s => .str s
  | _, .word, w => .num (.ofWord w)
  | _, .any, v => v
  | _, .table, t => .ofTable t
  | _, .textSet, t => .ofStrings t.items
  | _, .list item, as => .arr (as.map item.encode)
  | _, .option _, none => .null
  | _, .option value, some a => value.encode a
  | _, .nullAs _ value, a => value.encode a
  | _, .record _ row _ parts, a => .ofTable (.ofList (row.members (parts a)))

def Row.members : {ρ : Type} → Row ρ → ρ → List (String × Json)
  | _, .nil, _ => []
  | _, .field name value _ omitNull rest, r =>
      let v := value.encode r.1
      if omitNull ∧ v = .null then rest.members r.2 else (name, v) :: rest.members r.2

end

end StreamPipelines
