import Mathlib.Data.List.Nodup
import Mathlib.Tactic.MkIffOfInductiveProp
import Mathlib.Tactic.Tauto
import StreamPipelines.Client
import StreamPipelines.Proofs.Wire.Read

/-!
What a response of a bad status tells.
-/

namespace StreamPipelines

open Json (Cursor Failure IsSpaces IsString IsValue IsMembers IsItems IsObject IsArray Follows
  Gives)

namespace ErrorBody

/-- The values under this name. -/
def valuesOf (name : String) (members : List (String × List Char)) : List (List Char) :=
  (members.filter (·.1 = name)).map (·.2)

/-- What is known of a field before and after the values under its name arrive. -/
inductive Fills {α : Type} (P : List Char → α → Prop) :
    Option α → List (List Char) → Option α → Prop
  | kept {known : Option α} : Fills P known [] known
  | filled {v : List Char} {a : α} (value : P v a) : Fills P none [v] (some a)

def kindRow : Row (Option String × Unit) :=
  .defaulted "type" (.option .text) none .nil

def row : Row (String × Option String × Unit) :=
  .required "message" .text kindRow

abbrev Slots : Type :=
  Option String × Option (Option String) × Unit

@[mk_iff]
structure Fits (slots : Slots) (members : List (String × List Char)) (slots' : Slots) : Prop where
  message : Fills IsString slots.1 (valuesOf "message" members) slots'.1
  kind : Fills IsNullable slots.2.1 (valuesOf "type" members) slots'.2.1

theorem valuesOf_cons (name key : String) (v : List Char) (members : List (String × List Char)) :
    valuesOf name ((key, v) :: members) =
      if key = name then v :: valuesOf name members else valuesOf name members := by
  rw [valuesOf, List.filter_cons]
  by_cases same : key = name <;> simp [same, valuesOf]

theorem fills_cons_iff {α : Type} {P : List Char → α → Prop} {v : List Char}
    {vs : List (List Char)} {before after : Option α} :
    Fills P before (v :: vs) after ↔ before = none ∧ ∃ a, P v a ∧ Fills P (some a) vs after := by
  constructor
  · rintro ⟨⟩
    rename_i a value
    exact ⟨rfl, a, value, .kept⟩
  · rintro ⟨rfl, a, value, ⟨⟩⟩
    exact .filled value

/-- In an object without repeated names each name has one value at most. -/
theorem length_valuesOf_le (name : String) {members : List (String × List Char)}
    (unique : (members.map (·.1)).Nodup) : (valuesOf name members).length ≤ 1 := by
  have once := List.nodup_iff_count_le_one.mp unique name
  rw [List.count, List.countP_map] at once
  rw [valuesOf, List.length_map, ← List.countP_eq_length_filter]
  exact once

theorem mem_valuesOf_iff {name : String} {v : List Char} {members : List (String × List Char)} :
    v ∈ valuesOf name members ↔ (name, v) ∈ members := by
  simp [valuesOf]

theorem fills_nil_iff {α : Type} {P : List Char → α → Prop} {before after : Option α} :
    Fills P before [] after ↔ before = after := by
  constructor
  · rintro ⟨⟩
    rfl
  · rintro rfl
    exact .kept

theorem fits_nil_iff {slots slots' : Slots} : Fits slots [] slots' ↔ slots = slots' := by
  rw [fits_iff, Prod.ext_iff, Prod.ext_iff]
  exact and_congr fills_nil_iff (fills_nil_iff.trans (by simp))

theorem fits_cons_message {v : List Char} {members : List (String × List Char)}
    {slots slots' : Slots} :
    Fits slots (("message", v) :: members) slots' ↔
      slots.1 = none ∧ ∃ text, IsString v text ∧ Fits (some text, slots.2) members slots' := by
  have other : "message" ≠ "type" := by decide
  rw [fits_iff, valuesOf_cons, valuesOf_cons, if_pos rfl, if_neg other, fills_cons_iff]
  simp only [fits_iff]
  tauto

theorem fits_cons_kind {v : List Char} {members : List (String × List Char)}
    {slots slots' : Slots} :
    Fits slots (("type", v) :: members) slots' ↔
      slots.2.1 = none ∧ ∃ text, IsNullable v text ∧
        Fits (slots.1, some text, ()) members slots' := by
  have other : "type" ≠ "message" := by decide
  rw [fits_iff, valuesOf_cons, valuesOf_cons, if_pos rfl, if_neg other, fills_cons_iff]
  simp only [fits_iff]
  tauto

theorem fits_cons_other {key : String} {v : List Char} {members : List (String × List Char)}
    {slots slots' : Slots} (notMessage : key ≠ "message") (notKind : key ≠ "type") :
    Fits slots ((key, v) :: members) slots' ↔ Fits slots members slots' := by
  rw [fits_iff, fits_iff, valuesOf_cons, valuesOf_cons, if_neg notMessage, if_neg notKind]

theorem readMember_sound {levels : Nat} {key : String} {slots slots' : Slots} {c d : Cursor}
    (h : row.readMember levels key slots c = .ok (.ok slots', d)) :
    ∃ before behind v, IsSpaces before ∧ IsSpaces behind ∧ IsValue v ∧
      c.rest = before ++ ':' :: (behind ++ (v ++ d.rest)) ∧
      ∀ members slots'', Fits slots' members slots'' →
        Fits slots ((key, v) :: members) slots'' := by
  obtain ⟨message, kind, ⟨⟩⟩ := slots
  simp only [row, kindRow, Row.required, Row.defaulted, Row.readMember] at h
  split at h
  · rename_i same
    subst same
    cases message with
    | some text => cases h
    | none =>
        obtain ⟨e, colon, h⟩ := exists_of_bind_eq_ok h
        obtain ⟨⟨text, e⟩, read, h⟩ := exists_of_bind_eq_ok h
        cases h
        obtain ⟨before, spacesBefore, atColon⟩ := Json.readColon_sound colon
        obtain ⟨behind, v, spacesBehind, string, atValue⟩ := reads_text.sound read
        exact ⟨before, behind, v, spacesBefore, spacesBehind, string.isValue,
          by rw [atColon, atValue],
          fun members slots'' others => fits_cons_message.mpr ⟨rfl, text, string, others⟩⟩
  rename_i notMessage
  obtain ⟨⟨more, e⟩, read, h⟩ := exists_of_bind_eq_ok h
  split at read
  · rename_i same
    subst same
    cases kind with
    | some text =>
        cases read
        cases h
    | none =>
        obtain ⟨e, colon, read⟩ := exists_of_bind_eq_ok read
        obtain ⟨⟨text, e⟩, value, read⟩ := exists_of_bind_eq_ok read
        cases read
        cases h
        obtain ⟨before, spacesBefore, atColon⟩ := Json.readColon_sound colon
        obtain ⟨behind, v, spacesBehind, nullable, atValue⟩ := (reads_nullable levels).sound value
        exact ⟨before, behind, v, spacesBefore, spacesBehind, nullable.isValue,
          by rw [atColon, atValue],
          fun members slots'' others => fits_cons_kind.mpr ⟨rfl, text, nullable, others⟩⟩
  · rename_i notKind
    obtain ⟨⟨_, e⟩, skipped, read⟩ := exists_of_bind_eq_ok read
    obtain ⟨_, colon, skipped⟩ := exists_of_bind_eq_ok skipped
    obtain ⟨_, value, skipped⟩ := exists_of_bind_eq_ok skipped
    cases skipped
    cases read
    cases h
    obtain ⟨before, spacesBefore, atColon⟩ := Json.readColon_sound colon
    obtain ⟨behind, v, spacesBehind, isValue, atValue⟩ := Json.skipAnyValue_sound value
    exact ⟨before, behind, v, spacesBefore, spacesBehind, isValue, by rw [atColon, atValue],
      fun members slots'' others => (fits_cons_other notMessage notKind).mpr others⟩

theorem readMember_complete (levels : Nat) {key : String} {slots slots'' : Slots}
    {members : List (String × List Char)} {c : Cursor} {before behind v rest : List Char}
    (spacesBefore : IsSpaces before) (spacesBehind : IsSpaces behind) (value : IsValue v)
    (follows : Follows rest) (text : c.rest = before ++ ':' :: (behind ++ (v ++ rest)))
    (fits : Fits slots ((key, v) :: members) slots'') :
    ∃ slots', Gives (row.readMember levels key slots c) (.ok slots') rest ∧
      Fits slots' members slots'' := by
  obtain ⟨message, kind, ⟨⟩⟩ := slots
  obtain ⟨e, colon, atValue⟩ := Json.readColon_complete spacesBefore text
  by_cases isMessage : key = "message"
  · subst isMessage
    obtain ⟨none, text, string, others⟩ := fits_cons_message.mp fits
    cases none
    obtain ⟨d, read, left⟩ := reads_text.complete spacesBehind string follows atValue
    refine ⟨(some text, kind, ()), ⟨d, ?_, left⟩, others⟩
    simp only [row, kindRow, Row.required, Row.defaulted, Row.readMember, colon, Schema.read, read,
      if_true, bind, Except.bind, pure, Except.pure]
    rfl
  by_cases isKind : key = "type"
  · subst isKind
    obtain ⟨none, text, nullable, others⟩ := fits_cons_kind.mp fits
    cases none
    obtain ⟨d, read, left⟩ := (reads_nullable levels).complete spacesBehind nullable follows atValue
    refine ⟨(message, some text, ()), ⟨d, ?_, left⟩, others⟩
    simp only [row, kindRow, Row.required, Row.defaulted, Row.readMember, colon, read, isMessage,
      if_true, if_false, bind, Except.bind, pure, Except.pure, Except.map]
  · obtain ⟨d, skipped, left⟩ := Json.skipAnyValue_complete spacesBehind value follows atValue
    refine ⟨(message, kind, ()), ⟨d, ?_, left⟩, (fits_cons_other isMessage isKind).mp fits⟩
    simp only [row, kindRow, Row.required, Row.defaulted, Row.readMember, colon, skipped, isMessage,
      isKind, if_false, bind, Except.bind, pure, Except.pure, Except.map]

/-- The strings that stand before the values are these names. -/
def Names (named : List (List Char × List Char)) (members : List (String × List Char)) : Prop :=
  List.Forall₂ (fun n m => IsString n.1 m.1 ∧ n.2 = m.2) named members

theorem readMembers_sound {levels fuel : Nat} {first : Bool} {slots slots' : Slots} {c d : Cursor}
    (h : Json.readMembers (row.readMember levels) fuel first slots c = .ok (.ok slots', d)) :
    ∃ inside rest named members, IsMembers first inside named ∧ Names named members ∧
      Fits slots members slots' ∧ c.rest = inside ++ rest ∧ d.rest = '}' :: rest := by
  induction fuel generalizing first slots c with
  | zero => cases h
  | succ fuel ih =>
      obtain ⟨⟨found, e⟩, next, h⟩ := exists_of_bind_eq_ok h
      obtain ⟨rfl, ws, rest, spaces, text, left⟩ | ⟨e, l, rest, rfl, lead, text, quote⟩ :=
        Json.nextKey_sound next
      · cases h
        exact ⟨_, rest, [], [], .close spaces, .nil, ⟨.kept, .kept⟩, by rw [text]; simp, left⟩
      obtain ⟨⟨key, afterKey⟩, read, h⟩ := exists_of_bind_eq_ok h
      obtain ⟨⟨taken, afterMember⟩, member, h⟩ := exists_of_bind_eq_ok h
      cases taken with
      | error cause => cases h
      | ok between =>
          obtain ⟨k, string, atKey⟩ := Json.readString_sound quote read
          obtain ⟨before, behind, v, spacesBefore, spacesBehind, value, atMember, fits⟩ :=
            readMember_sound member
          obtain ⟨inside, rest, named, members, object, names, others, atOthers, left⟩ := ih h
          have isKey := string
          obtain ⟨key⟩ := isKey
          refine ⟨_, rest, _, (_, v) :: members,
            .member lead key.isInside spacesBefore spacesBehind value object,
            .cons ⟨string, rfl⟩ names, fits members slots' others, ?_, left⟩
          rw [text, atKey, atMember, atOthers]
          simp

theorem readMembers_complete (levels : Nat) {fuel : Nat} {first : Bool} {slots slots' : Slots}
    {c : Cursor} {inside rest : List Char} {named : List (List Char × List Char)}
    {members : List (String × List Char)} (object : IsMembers first inside named)
    (names : Names named members) (fits : Fits slots members slots')
    (enough : inside.length ≤ fuel) (text : c.rest = inside ++ rest) :
    Gives (Json.readMembers (row.readMember levels) fuel first slots c) (.ok slots')
      ('}' :: rest) := by
  induction fuel generalizing first slots c inside named members with
  | zero => cases object <;> simp at enough
  | succ fuel ih =>
      cases object with
      | close spaces =>
          cases names
          obtain rfl := fits_nil_iff.mp fits
          rw [List.append_assoc] at text
          obtain ⟨d, next, left⟩ := Json.nextKey_close first spaces text
          exact ⟨d, by simp only [Json.readMembers, next, bind, Except.bind], left⟩
      | @member _ l k ws ws' v inside _ lead key spacesBefore spacesBehind value others =>
          cases names with | @cons _ m _ members same names
          obtain ⟨name, w⟩ := m
          obtain ⟨string, rfl⟩ := same
          simp only [List.append_assoc, List.cons_append] at text
          obtain ⟨e, next, quote⟩ := Json.nextKey_key lead text
          obtain ⟨afterKey, read, atColon⟩ := Json.readString_complete string quote
          obtain ⟨between, ⟨afterMember, member, left⟩, fits⟩ := readMember_complete levels
            spacesBefore spacesBehind value (Json.follows_members others rest) atColon fits
          have shorter : inside.length ≤ fuel := by
            simp only [List.length_append, List.length_cons] at enough
            omega
          obtain ⟨d, loop, atBrace⟩ := ih others names fits shorter left
          exact ⟨d, by simp only [Json.readMembers, next, read, member, loop, bind, Except.bind],
            atBrace⟩

/-- One value, a string that stands for the message. -/
def IsMessage (values : List (List Char)) (message : String) : Prop :=
  ∃ v, values = [v] ∧ IsString v message

/-- No value, or one that is null or a string. -/
def IsKind (values : List (List Char)) : Prop :=
  values = [] ∨ ∃ v text, values = [v] ∧ IsNullable v text

/-- The body is an object with a message and perhaps a type, whatever its other members are, or an
array of the two. -/
inductive Tells (body : List Char) (message : String) : Prop
  | object {members : List (String × List Char)} (object : IsObject body members)
      (message : IsMessage (valuesOf "message" members) message)
      (kind : IsKind (valuesOf "type" members))
  | array {v : List Char} {more : List (List Char)} (array : IsArray body (v :: more))
      (message : IsString v message) (kind : IsKind more)

theorem isMessage_iff {values : List (List Char)} {message : String} :
    IsMessage values message ↔ Fills IsString none values (some message) := by
  constructor
  · rintro ⟨v, rfl, string⟩
    exact .filled string
  · rintro ⟨⟩
    rename_i v string
    exact ⟨v, rfl, string⟩

theorem isKind_iff {values : List (List Char)} :
    IsKind values ↔ ∃ known, Fills IsNullable none values known := by
  constructor
  · rintro (rfl | ⟨v, text, rfl, nullable⟩)
    · exact ⟨none, .kept⟩
    · exact ⟨some text, .filled nullable⟩
  · rintro ⟨known, ⟨⟩⟩
    · exact .inl rfl
    · rename_i v text nullable
      exact .inr ⟨v, text, rfl, nullable⟩

theorem readKind_sound {levels index fields : Nat} {record : String} {c d : Cursor}
    {kind : Option String × Unit} {ws rest : List Char}
    (h : kindRow.readItems record fields index levels false c = .ok (.ok kind, d))
    (spaces : IsSpaces ws) (bracket : d.rest = ws ++ ']' :: rest) :
    ∃ inside more, IsItems false inside more ∧ IsKind more ∧ c.rest = inside ++ rest := by
  simp only [kindRow, Row.defaulted, Row.readItems] at h
  obtain ⟨⟨found, e⟩, next, h⟩ := exists_of_bind_eq_ok h
  obtain ⟨rfl, before, rest', spacesBefore, text, left⟩ | ⟨e, l, rfl, lead, text⟩ :=
    Json.nextItem_sound next
  · obtain ⟨⟨_, f⟩, none, h⟩ := exists_of_bind_eq_ok h
    cases none
    cases h
    obtain ⟨-, rfl⟩ := Json.eq_nil_of_spaces spaces (by decide) (left.symm.trans bracket)
    exact ⟨_, [], .close spacesBefore, .inl rfl, by rw [text]; simp⟩
  · obtain ⟨⟨_, f⟩, read, h⟩ := exists_of_bind_eq_ok h
    obtain ⟨⟨_, g⟩, none, h⟩ := exists_of_bind_eq_ok h
    cases none
    cases h
    obtain ⟨behind, v, spacesBehind, nullable, atValue⟩ := (reads_nullable levels).sound read
    refine ⟨_, [v], .item (lead.append spacesBehind) nullable.isValue (.close spaces),
      .inr ⟨v, _, rfl, nullable⟩, ?_⟩
    rw [text, atValue, bracket]
    simp

theorem readItems_sound {levels index fields : Nat} {record : String} {c d : Cursor}
    {message : String} {kind : Option String × Unit} {ws rest : List Char}
    (h : row.readItems record fields index levels true c = .ok (.ok (message, kind), d))
    (spaces : IsSpaces ws) (bracket : d.rest = ws ++ ']' :: rest) :
    ∃ inside v more, IsItems true inside (v :: more) ∧ IsString v message ∧ IsKind more ∧
      c.rest = inside ++ rest := by
  rw [row, Row.required, Row.readItems] at h
  obtain ⟨⟨found, e⟩, next, h⟩ := exists_of_bind_eq_ok h
  obtain ⟨rfl, before, rest', -, -, -⟩ | ⟨e, l, rfl, lead, text⟩ := Json.nextItem_sound next
  · cases h
  obtain ⟨⟨a, afterMessage⟩, read, h⟩ := exists_of_bind_eq_ok h
  obtain ⟨⟨others, f⟩, behind, h⟩ := exists_of_bind_eq_ok h
  cases others with
  | error cause => cases h
  | ok others =>
      cases h
      obtain ⟨ws', v, spaces', string, atMessage⟩ := reads_text.sound read
      obtain ⟨inside, more, items, isKind, atKind⟩ := readKind_sound behind spaces bracket
      refine ⟨_, v, more, .item (lead.append spaces') string.isValue items, string, isKind, ?_⟩
      rw [text, atMessage, atKind]
      simp

theorem readKind_complete (record : String) (fields index levels : Nat) {c : Cursor}
    {inside rest : List Char} {more : List (List Char)} (items : IsItems false inside more)
    (isKind : IsKind more) (text : c.rest = inside ++ rest) :
    ∃ kind d ws, kindRow.readItems record fields index levels false c = .ok (.ok kind, d) ∧
      IsSpaces ws ∧ d.rest = ws ++ ']' :: rest := by
  simp only [kindRow, Row.defaulted, Row.readItems]
  cases items with
  | close spaces =>
      rw [List.append_assoc] at text
      obtain ⟨d, next, left⟩ := Json.nextItem_close false spaces text
      exact ⟨_, d, [], by rw [next]; rfl, Json.isSpaces_nil, left⟩
  | @item _ l v cs items lead value others =>
      obtain none | ⟨v', kind, one, nullable⟩ := isKind
      · cases none
      cases one
      obtain @⟨_, ws, spaces⟩ := others
      simp only [List.append_assoc] at text
      obtain ⟨e, next, atValue⟩ := Json.nextItem_item lead value text
      obtain ⟨d, read, left⟩ := (reads_nullable levels).complete Json.isSpaces_nil
        nullable (Json.follows_spaces spaces (.inr (.inl rfl))) atValue
      refine ⟨(kind, ()), d, ws, ?_, spaces, left⟩
      simp only [next, read, bind, Except.bind, pure, Except.pure, Except.map]

theorem readItems_complete (record : String) (fields index levels : Nat) {c : Cursor}
    {message : String} {inside v rest : List Char} {more : List (List Char)}
    (items : IsItems true inside (v :: more)) (string : IsString v message) (isKind : IsKind more)
    (text : c.rest = inside ++ rest) :
    ∃ kind d ws, row.readItems record fields index levels true c = .ok (.ok (message, kind), d) ∧
      IsSpaces ws ∧ d.rest = ws ++ ']' :: rest := by
  obtain _ | @⟨_, l, v, cs, _, lead, value, others⟩ := items
  simp only [List.append_assoc] at text
  obtain ⟨e, next, atMessage⟩ := Json.nextItem_item lead value text
  obtain ⟨f, read, behind⟩ := reads_text.complete Json.isSpaces_nil string
    (Json.follows_items others rest) atMessage
  obtain ⟨kind, d, ws, readKind, spaces, left⟩ := readKind_complete record fields (index + 1)
    levels others isKind behind
  refine ⟨kind, d, ws, ?_, spaces, left⟩
  rw [row, Row.required, Row.readItems]
  simp only [next, Schema.read, read, readKind, bind, Except.bind, pure, Except.pure, Except.map]

theorem ofSlots_eq_ok_iff {slots : Slots} {r : String × Option String × Unit} :
    row.ofSlots slots = .ok r ↔ slots.1 = some r.1 ∧ r.2.1 = slots.2.1.getD none := by
  obtain ⟨message, kind, ⟨⟩⟩ := slots
  obtain ⟨text, kind', ⟨⟩⟩ := r
  cases message with
  | none => simp [row, kindRow, Row.required, Row.defaulted, Row.ofSlots]
  | some message =>
      cases kind <;>
        simp [row, kindRow, Row.required, Row.defaulted, Row.ofSlots, Except.map, eq_comm]

theorem tells_of_readList {levels : Nat} {c d : Cursor} {r : String × Option String × Unit}
    (h : (do
      let (content, c) ← row.readItems "ApiErrorBody" row.size 0 levels true c
      Json.close content (Json.closeList c)) = .ok (r, d)) :
    ∃ inside v more, IsItems true inside (v :: more) ∧ IsString v r.1 ∧ IsKind more ∧
      c.rest = inside ++ d.rest := by
  obtain ⟨⟨content, e⟩, items, closed⟩ := exists_of_bind_eq_ok h
  obtain ⟨rfl, closing⟩ := Json.close_eq_ok_iff.mp closed
  obtain ⟨ws, spaces, bracket⟩ := Json.closeList_sound closing
  exact readItems_sound items spaces bracket

theorem tells_of_readObject {levels : Nat} {c d : Cursor} {r : String × Option String × Unit}
    (h : (do
      let (slots, c) ←
        Json.readMembers (row.readMember levels) (c.rest.length + 1) true row.noSlots c
      Json.close (slots.bind row.ofSlots) (Json.closeObject c)) = .ok (r, d)) :
    ∃ inside named members, IsMembers true inside named ∧ Names named members ∧
      IsMessage (valuesOf "message" members) r.1 ∧ IsKind (valuesOf "type" members) ∧
      c.rest = inside ++ d.rest := by
  obtain ⟨⟨slots, e⟩, read, closed⟩ := exists_of_bind_eq_ok h
  obtain ⟨content, closing⟩ := Json.close_eq_ok_iff.mp closed
  obtain ⟨slots, rfl, filled⟩ := exists_of_bind_eq_ok content
  obtain ⟨ws, spaces, brace⟩ := Json.closeObject_sound closing
  obtain ⟨inside, rest, named, members, object, names, fits, text, left⟩ := readMembers_sound read
  obtain ⟨-, rfl⟩ := Json.eq_nil_of_spaces spaces (by decide) (left.symm.trans brace)
  obtain ⟨message, -⟩ := ofSlots_eq_ok_iff.mp filled
  refine ⟨inside, named, members, object, names, isMessage_iff.mpr ?_,
    isKind_iff.mpr ⟨_, fits.kind⟩, text⟩
  rw [← message]
  exact fits.message

theorem read_sound {levels : Nat} {c d : Cursor} {b : ErrorBody}
    (h : schema.read (levels + 1) c = .ok (b, d)) (spaces : IsSpaces d.rest) :
    Tells c.rest b.message := by
  obtain ⟨before, spacesBefore, text⟩ := Json.exists_spaces c
  rw [schema, Schema.read] at h
  dsimp only at h
  generalize c.skipSpace = e at h text
  rw [text]
  split at h
  · obtain ⟨⟨r, f⟩, opened, h⟩ := exists_of_bind_eq_ok h
    cases h
    obtain ⟨rest, bracket, content⟩ := readOpened_sound opened
    obtain ⟨inside, v, more, items, string, kind, behind⟩ := tells_of_readList content
    rw [Cursor.rest_next, bracket, List.tail_cons] at behind
    exact .array ⟨before, inside, _, by rw [bracket, behind], spacesBefore, spaces, items⟩ string
      kind
  · obtain ⟨⟨r, f⟩, opened, h⟩ := exists_of_bind_eq_ok h
    cases h
    obtain ⟨rest, brace, content⟩ := readOpened_sound opened
    obtain ⟨inside, named, members, object, names, message, kind, behind⟩ :=
      tells_of_readObject content
    rw [Cursor.rest_next, brace, List.tail_cons] at behind
    exact .object ⟨before, inside, _, named, by rw [brace, behind], spacesBefore, spaces, object,
      names⟩ message kind

theorem readList_of_tells (levels : Nat) {c : Cursor} {message : String} {inside v rest : List Char}
    {more : List (List Char)} (items : IsItems true inside (v :: more))
    (string : IsString v message) (isKind : IsKind more) (text : c.rest = inside ++ rest) :
    ∃ kind, Gives (do
      let (content, c) ← row.readItems "ApiErrorBody" row.size 0 levels true c
      Json.close content (Json.closeList c)) (message, kind) rest := by
  obtain ⟨kind, e, ws, read, spaces, bracket⟩ := readItems_complete "ApiErrorBody" row.size 0
    levels items string isKind text
  obtain ⟨d, closing, left⟩ := Json.closeList_complete spaces bracket
  refine ⟨kind, d, ?_, left⟩
  rw [read]
  exact Json.close_eq_ok_iff.mpr ⟨rfl, closing⟩

theorem readObject_of_tells (levels : Nat) {c : Cursor} {message : String} {inside rest : List Char}
    {named : List (List Char × List Char)} {members : List (String × List Char)}
    (object : IsMembers true inside named) (names : Names named members)
    (isMessage : IsMessage (valuesOf "message" members) message)
    (isKind : IsKind (valuesOf "type" members)) (text : c.rest = inside ++ rest) :
    ∃ kind, Gives (do
      let (slots, c) ←
        Json.readMembers (row.readMember levels) (c.rest.length + 1) true row.noSlots c
      Json.close (slots.bind row.ofSlots) (Json.closeObject c)) (message, kind) rest := by
  obtain ⟨known, kind⟩ := isKind_iff.mp isKind
  have fits : Fits row.noSlots members (some message, known, ()) :=
    ⟨isMessage_iff.mp isMessage, kind⟩
  have enough : inside.length ≤ c.rest.length + 1 := by
    rw [text, List.length_append]
    omega
  obtain ⟨e, read, brace⟩ := readMembers_complete levels object names fits enough text
  obtain ⟨d, closing, left⟩ := Json.closeObject_complete Json.isSpaces_nil brace
  refine ⟨(known.getD none, ()), d, ?_, left⟩
  rw [read]
  have filled : row.ofSlots (some message, known, ()) = .ok (message, known.getD none, ()) :=
    ofSlots_eq_ok_iff.mpr ⟨rfl, rfl⟩
  exact Json.close_eq_ok_iff.mpr ⟨filled, closing⟩

theorem read_complete (levels : Nat) {c : Cursor} {message : String} (h : Tells c.rest message) :
    ∃ b d, schema.read (levels + 1) c = .ok (b, d) ∧ b.message = message ∧ IsSpaces d.rest := by
  rw [schema, Schema.read]
  dsimp only
  cases h with
  | array array string isKind =>
      obtain ⟨before, inside, behind, text, spacesBefore, spacesBehind, items⟩ := array
      have bracket := Json.rest_skipSpace_of spacesBefore text (by rintro x ⟨⟩; decide)
      obtain ⟨kind, d, read, left⟩ := readList_of_tells levels
        (c := c.skipSpace.next) items string isKind
        (by rw [Cursor.rest_next, bracket, List.tail_cons])
      rw [if_pos (Json.startsWith_iff.mpr ⟨_, bracket⟩), readOpened_eq bracket]
      refine ⟨⟨message, kind.1⟩, d, ?_, rfl, left ▸ spacesBehind⟩
      exact bind_of_eq_ok read fun x => .ok ((⟨x.1.1, x.1.2.1⟩ : ErrorBody), x.2)
  | object object isMessage isKind =>
      obtain ⟨before, inside, behind, named, text, spacesBefore, spacesBehind, members, names⟩ :=
        object
      have brace := Json.rest_skipSpace_of spacesBefore text (by rintro x ⟨⟩; decide)
      have notBracket : ¬Json.startsWith '[' c.skipSpace = true := by
        rw [Json.startsWith_iff, brace]
        rintro ⟨rest, ⟨⟩⟩
      obtain ⟨kind, d, read, left⟩ := readObject_of_tells levels
        (c := c.skipSpace.next) members names isMessage isKind
        (by rw [Cursor.rest_next, brace, List.tail_cons])
      rw [if_neg notBracket, readOpened_eq brace]
      refine ⟨⟨message, kind.1⟩, d, ?_, rfl, left ▸ spacesBehind⟩
      exact bind_of_eq_ok read fun x => .ok ((⟨x.1.1, x.1.2.1⟩ : ErrorBody), x.2)

/-- A body is read as an error body exactly if it tells something. -/
theorem parse_iff {body message : String} :
    (∃ b, schema.parse body = .ok b ∧ b.message = message) ↔ Tells body.toList message := by
  have levels : Json.maxNesting = 126 + 1 := rfl
  constructor
  · rintro ⟨b, parsed, rfl⟩
    obtain ⟨⟨r, d⟩, read, finished⟩ := exists_of_bind_eq_ok parsed
    obtain ⟨rfl, spaces⟩ := Json.finish_eq_ok_iff.mp finished
    exact read_sound read spaces
  · intro tells
    obtain ⟨b, d, read, same, spaces⟩ := read_complete 126 (c := .ofText body) tells
    refine ⟨b, ?_, same⟩
    rw [Schema.parse, levels, read]
    exact Json.finish_eq_ok_iff.mpr ⟨rfl, spaces⟩

end ErrorBody
end StreamPipelines
