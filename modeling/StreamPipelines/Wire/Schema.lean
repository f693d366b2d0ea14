import StreamPipelines.Json.Reader
import StreamPipelines.TextSet

/-!
Schemas describe how values of a type travel as JSON. One description serves three purposes: a
JSON value is decoded by it, a JSON text is read by it, and a value is encoded by it. A record is
a row of named fields; a field may have a value that stands in when it is absent, and may be left
out of the encoded record when its value encodes to null.
-/

namespace StreamPipelines

mutual

inductive Schema : Type → Type 1 where
  | text : Schema String
  | word : Schema UInt64
  /-- Any JSON value, kept as it is. -/
  | any : Schema Json
  | table : Schema (Table Json)
  | textSet : Schema TextSet
  | list {α : Type} (item : Schema α) : Schema (List α)
  | option {α : Type} (value : Schema α) : Schema (Option α)
  /-- As `value`, but null stands for `default`. -/
  | nullAs {α : Type} (default : α) (value : Schema α) : Schema α
  | record {ρ α : Type} (name : String) (row : Row ρ) (make : ρ → α) (parts : α → ρ) : Schema α

inductive Row : Type → Type 1 where
  | nil : Row Unit
  | field {α ρ : Type} (name : String) (value : Schema α) (absent : Option α) (omitNull : Bool)
      (rest : Row ρ) : Row (α × ρ)

end

namespace Row

/-- A field that has to be there. -/
def required {α ρ : Type} (name : String) (value : Schema α) (rest : Row ρ) : Row (α × ρ) :=
  .field name value none false rest

/-- A field with a default. -/
def defaulted {α ρ : Type} (name : String) (value : Schema α) (absent : α) (rest : Row ρ) :
    Row (α × ρ) :=
  .field name value (some absent) false rest

def size : {ρ : Type} → Row ρ → Nat
  | _, .nil => 0
  | _, .field _ _ _ _ rest => rest.size + 1

/-- What is known of the fields of a record while its members arrive. -/
def Slots : {ρ : Type} → Row ρ → Type
  | _, .nil => Unit
  | _, .field (α := α) _ _ _ _ rest => Option α × rest.Slots

def noSlots : {ρ : Type} → (row : Row ρ) → row.Slots
  | _, .nil => ()
  | _, .field _ _ _ _ rest => (none, rest.noSlots)

/-- The record after all members have arrived; the first field without a value is reported. -/
def ofSlots : {ρ : Type} → (row : Row ρ) → row.Slots → Except Json.Mismatch ρ
  | _, .nil, _ => .ok ()
  | _, .field name _ absent _ rest, slots =>
      match slots.1.or absent with
      | none => .error (.missingField name)
      | some a => (rest.ofSlots slots.2).map fun more => (a, more)

end Row
end StreamPipelines
