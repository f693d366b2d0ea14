import StreamPipelines.Wire.Schema

/-!
Reading a JSON text by a schema, without making a JSON value of it first. Every failure has its
place: behind a scalar of the wrong form, before an array or object of the wrong form, behind
the closing bracket of a record that lacks a field, and behind a repeated key.
-/

namespace StreamPipelines

open Json (Mismatch Form Found Cursor Failure)

/-- Fails because the value that is next has another form than the wanted one. Scalars are read
all the same, and anything wrong with them comes first. -/
def failForm {α : Type} (wanted : Form) (c : Cursor) : Except Failure α :=
  match c.rest with
  | [] => c.fail .endInValue
  | x :: _ =>
      if x = 'n' then do
        (← Json.expectWord ['u', 'l', 'l'] c.next).mismatch (.wrongType .null wanted)
      else if x = 't' then do
        (← Json.expectWord ['r', 'u', 'e'] c.next).mismatch (.wrongType (.boolean true) wanted)
      else if x = 'f' then do
        (← Json.expectWord ['a', 'l', 's', 'e'] c.next).mismatch
          (.wrongType (.boolean false) wanted)
      else if x = '"' then do
        let (s, c) ← Json.readString c
        c.mismatch (.wrongType (.string s) wanted)
      else if x = '-' || (Text.digitValue? x).isSome then do
        let (n, c) ← Json.readNumber c
        c.mismatch (.wrongType (.number n) wanted)
      else if x = '[' then c.mismatch (.wrongType .sequence wanted)
      else if x = '{' then c.mismatch (.wrongType .map wanted)
      else c.failNext .noValue

def readText (c : Cursor) : Except Failure (String × Cursor) :=
  let c := c.skipSpace
  if Json.startsWith '"' c then Json.readString c else failForm .string c

def readWord (c : Cursor) : Except Failure (UInt64 × Cursor) :=
  let c := c.skipSpace
  if Json.startsWith '-' c || Json.startsWithDigit c then do
    let (n, c) ← Json.readNumber c
    match n.word? with
    | some w => .ok (w, c)
    | none => c.mismatch (.notWord n)
  else failForm .word c

/-- Reads what stands behind the opening bracket `x`, if that is next and not too deep; the inner
reader gets the levels of nesting that are left. -/
def readOpened {α : Type} (x : Char) (wanted : Form) (levels : Nat)
    (content : Nat → Cursor → Except Failure (α × Cursor)) (c : Cursor) :
    Except Failure (α × Cursor) :=
  if Json.startsWith x c then
    match levels with
    | 0 => c.failNext .tooDeep
    | levels + 1 => content levels c.next
  else failForm wanted c

/-- Null, or what `value` reads. -/
def readUnlessNull {α : Type} (default : α) (value : Cursor → Except Failure (α × Cursor))
    (c : Cursor) : Except Failure (α × Cursor) :=
  let c := c.skipSpace
  if Json.startsWith 'n' c then do
    return (default, ← Json.expectWord ['u', 'l', 'l'] c.next)
  else value c

mutual

def Schema.read : {α : Type} → Schema α → (levels : Nat) → Cursor → Except Failure (α × Cursor)
  | _, .text, _, c => readText c
  | _, .word, _, c => readWord c
  | _, .any, levels, c => Json.readValue levels c
  | _, .table, levels, c =>
      readOpened '{' .map levels (fun levels => Json.readTable (Json.readValue levels)) c.skipSpace
  | _, .textSet, levels, c => do
      let (ss, c) ←
        readOpened '[' .sequence levels (fun _ => Json.readList readText) c.skipSpace
      return (TextSet.ofList ss, c)
  | _, .list item, levels, c =>
      readOpened '[' .sequence levels (fun levels => Json.readList (item.read levels)) c.skipSpace
  | _, .option value, levels, c =>
      readUnlessNull none (fun c => do
        let (a, c) ← value.read levels c
        return (some a, c)) c
  | _, .nullAs default value, levels, c => readUnlessNull default (value.read levels) c
  | _, .record name row make _, levels, c => do
      let c := c.skipSpace
      if Json.startsWith '[' c then
        let (r, c) ← readOpened '[' (.record name) levels (fun levels c => do
          let (content, c) ← row.readItems name row.size 0 levels true c
          Json.close content (Json.closeList c)) c
        return (make r, c)
      else
        let (r, c) ← readOpened '{' (.record name) levels (fun levels c => do
          let (slots, c) ←
            Json.readMembers (row.readMember levels) (c.rest.length + 1) true row.noSlots c
          Json.close (slots.bind row.ofSlots) (Json.closeObject c)) c
        return (make r, c)

/-- Takes the member whose key was read; a repeated key is reported where it ends. -/
def Row.readMember : {ρ : Type} → (row : Row ρ) → (levels : Nat) → String → row.Slots → Cursor →
    Except Failure (Except Mismatch row.Slots × Cursor)
  | _, .nil, _, _, slots, c => do
      return (.ok slots, ← Json.skipAnyValue (← Json.readColon c))
  | _, .field name value _ _ rest, levels, key, slots, c => do
      if key = name then
        match slots.1 with
        | some _ => return (.error (.repeatedField name), c)
        | none =>
            let (a, c) ← value.read levels (← Json.readColon c)
            return (.ok (some a, slots.2), c)
      else
        let (more, c) ← rest.readMember levels key slots.2 c
        return (more.map fun more => (slots.1, more), c)

/-- Takes the fields from the items of an array; `index` counts the fields before these. -/
def Row.readItems : {ρ : Type} → Row ρ → (record : String) → (fields index levels : Nat) →
    (first : Bool) → Cursor → Except Failure (Except Mismatch ρ × Cursor)
  | _, .nil, _, _, _, _, _, c => return (.ok (), c)
  | _, .field _ value absent _ rest, record, fields, index, levels, first, c => do
      match ← Json.nextItem first c, absent with
      | (none, c), none => return (.error (.shortArray index record fields), c)
      | (none, c), some a =>
          let (more, c) ← rest.readItems record fields (index + 1) levels first c
          return (more.map fun more => (a, more), c)
      | (some c, _), _ =>
          let (a, c) ← value.read levels c
          let (more, c) ← rest.readItems record fields (index + 1) levels false c
          return (more.map fun more => (a, more), c)

end

/-- The value that a text is. -/
def Schema.parse {α : Type} (s : Schema α) (text : String) : Except Failure α := do
  Json.finish (← s.read Json.maxNesting (.ofText text))

end StreamPipelines
