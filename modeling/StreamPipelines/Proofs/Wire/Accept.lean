import Mathlib.Data.List.Forall2
import StreamPipelines.Proofs.Wire.RoundTrip

/-!
What a schema accepts, said without the steps of decoding. Of an array each field takes the item at
its place, and of an object the member with its name, which must not be repeated; a field without a
value is what stands in for it. A lawful schema decodes what it accepts and nothing else.
-/

namespace StreamPipelines

open Json (Mismatch)

/-- No two of the members have this name. -/
def Json.IsOnce (name : String) (ms : List (String × Json)) : Prop :=
  (ms.map (·.1)).count name ≤ 1

/-- What a field is, by the value that is there for it: what that is accepted as or, if there is no
value, what stands in. -/
inductive Holds {α : Type} (accepts : Json → α → Prop) (absent : Option α) :
    Option Json → α → Prop
  | present {v : Json} {a : α} (value : accepts v a) : Holds accepts absent (some v) a
  | absent {a : α} (standIn : absent = some a) : Holds accepts absent none a

mutual

def Schema.Accepts : {α : Type} → Schema α → Json → α → Prop
  | _, .text, v, s => v = .str s
  | _, .word, v, w => v = .num (.ofWord w)
  | _, .any, v, a => v = a
  | _, .table, v, t => ∃ ms, v = .obj ms ∧ Table.ofList ms = t
  | _, .textSet, v, t => ∃ ss, v = .ofStrings ss ∧ TextSet.ofList ss = t
  | _, .list item, v, as => ∃ vs, v = .arr vs ∧ List.Forall₂ item.Accepts vs as
  | _, .option value, v, a =>
      v = .null ∧ a = none ∨ v ≠ .null ∧ ∃ b, a = some b ∧ value.Accepts v b
  | _, .nullAs default value, v, a => v = .null ∧ a = default ∨ v ≠ .null ∧ value.Accepts v a
  | _, .record _ row make _, v, a =>
      ∃ r, make r = a ∧ ((∃ vs, v = .arr vs ∧ row.AcceptsItems vs 0 r) ∨
        ∃ ms, v = .obj ms ∧ (∀ name ∈ row.names, Json.IsOnce name ms) ∧ row.AcceptsMembers ms r)

/-- The fields from this index on are at their places, and there are no items behind them. -/
def Row.AcceptsItems : {ρ : Type} → Row ρ → List Json → (index : Nat) → ρ → Prop
  | _, .nil, vs, index, _ => vs.length ≤ index
  | _, .field _ value absent _ rest, vs, index, r =>
      Holds value.Accepts absent vs[index]? r.1 ∧ rest.AcceptsItems vs (index + 1) r.2

def Row.AcceptsMembers : {ρ : Type} → Row ρ → List (String × Json) → ρ → Prop
  | _, .nil, _, _ => True
  | _, .field name value absent _ rest, ms, r =>
      Holds value.Accepts absent (Table.lookupEntry name ms) r.1 ∧ rest.AcceptsMembers ms r.2

end

/-- It decodes what it accepts and nothing else. -/
def Schema.IsExact {α : Type} (s : Schema α) : Prop :=
  ∀ v a, s.decode v = .ok a ↔ s.Accepts v a

/-- The values of its fields are decoded so, and the fields have different names. -/
def Row.IsExact : {ρ : Type} → Row ρ → Prop
  | _, .nil => True
  | _, .field name value _ _ rest => value.IsExact ∧ name ∉ rest.names ∧ rest.IsExact

theorem holds_none_iff {α : Type} {accepts : Json → α → Prop} {absent : Option α} {a : α} :
    Holds accepts absent none a ↔ absent = some a := by
  constructor
  · intro h
    cases h with
    | absent standIn => exact standIn
  · exact .absent

theorem holds_some_iff {α : Type} {accepts : Json → α → Prop} {absent : Option α} {v : Json}
    {a : α} : Holds accepts absent (some v) a ↔ accepts v a := by
  constructor
  · intro h
    cases h with
    | present value => exact value
  · exact .present

/-- Null leaves the field without a value. -/
theorem holds_option_iff {α : Type} {value : Schema α} {v? : Option Json} {a : Option α} :
    Holds (Schema.option value).Accepts (some none) v? a ↔
      (v? = none ∨ v? = some .null) ∧ a = none ∨
        ∃ v, v ≠ .null ∧ v? = some v ∧ ∃ b, a = some b ∧ value.Accepts v b := by
  cases v? with
  | none => simp [holds_none_iff, eq_comm]
  | some v =>
      rw [holds_some_iff]
      show v = .null ∧ a = none ∨ v ≠ .null ∧ (∃ b, a = some b ∧ value.Accepts v b) ↔ _
      simp

theorem holds_nullAs_iff {α : Type} {value : Schema α} {v? : Option Json} {default a : α} :
    Holds (Schema.nullAs default value).Accepts (some default) v? a ↔
      (v? = none ∨ v? = some .null) ∧ a = default ∨
        ∃ v, v ≠ .null ∧ v? = some v ∧ value.Accepts v a := by
  cases v? with
  | none => simp [holds_none_iff, eq_comm]
  | some v =>
      rw [holds_some_iff]
      show v = .null ∧ a = default ∨ v ≠ .null ∧ value.Accepts v a ↔ _
      simp

theorem Json.Number.word?_eq_some_iff {n : Json.Number} {w : UInt64} :
    n.word? = some w ↔ n = .ofWord w := by
  cases n with
  | float x => simp [word?, ofWord]
  | int i isWord =>
      have below := isWord.2
      have small := w.toNat_lt
      rw [word?, ofWord, Json.Number.int.injEq]
      split
      · rw [Option.some.injEq, ← UInt64.toNat_inj, UInt64.toNat_ofNat']
        omega
      · simp only [reduceCtorEq, false_iff]
        omega

theorem mapM_eq_ok_iff {ε α β : Type} {f : α → Except ε β} {xs : List α} {ys : List β} :
    xs.mapM f = .ok ys ↔ List.Forall₂ (fun x y => f x = .ok y) xs ys := by
  induction xs generalizing ys with
  | nil =>
      rw [List.forall₂_nil_left_iff]
      constructor
      · intro h
        cases h
        rfl
      · intro h
        cases h
        rfl
  | cons x xs ih =>
      rw [List.mapM_cons, List.forall₂_cons_left_iff]
      constructor
      · intro h
        obtain ⟨y, first, h⟩ := exists_of_bind_eq_ok h
        obtain ⟨ys, rest, h⟩ := exists_of_bind_eq_ok h
        cases h
        exact ⟨y, ys, first, ih.mp rest, rfl⟩
      · rintro ⟨y, ys, first, rest, rfl⟩
        rw [first, ih.mpr rest]
        rfl

theorem mapM_some {ε α β : Type} {f : α → Except ε β} {x : α} :
    (some x).mapM f = (f x).map some := by
  show (f x).bind (fun y => .ok (some y)) = _
  cases f x <;> rfl

namespace Schema

variable {α : Type}

theorem isExact_text : Schema.text.IsExact := by
  intro v s
  show decodeText v = .ok s ↔ v = .str s
  cases v <;> simp [decodeText, wrongForm]

theorem isExact_word : Schema.word.IsExact := by
  intro v w
  show decodeWord v = .ok w ↔ v = .num (.ofWord w)
  cases v with
  | num n =>
      rw [Json.num.injEq, ← Json.Number.word?_eq_some_iff, decodeWord]
      cases n.word? <;> simp
  | null | bool | str | arr | obj => simp [decodeWord, wrongForm]

theorem isExact_any : Schema.any.IsExact := by
  intro v a
  exact Except.ok.injEq v a ▸ Iff.rfl

theorem isExact_table : Schema.table.IsExact := by
  intro v t
  show _ ↔ ∃ ms, v = .obj ms ∧ Table.ofList ms = t
  cases v with
  | obj ms =>
      show Except.ok (Table.ofList ms) = .ok t ↔ _
      simp
  | null | bool | num | str | arr => exact iff_of_false nofun nofun

theorem isExact_textSet : Schema.textSet.IsExact := by
  have items (vs : List Json) (ss : List String) :
      vs.mapM decodeText = .ok ss ↔ vs = ss.map .str := by
    have each : ∀ v s, decodeText v = .ok s ↔ v = .str s := isExact_text
    rw [mapM_eq_ok_iff]
    simp only [each]
    rw [← List.forall₂_map_right_iff (R := Eq) (f := Json.str), List.forall₂_eq_eq_eq]
  intro v t
  show _ ↔ ∃ ss, v = .arr (ss.map .str) ∧ TextSet.ofList ss = t
  cases v with
  | arr vs =>
      show (vs.mapM decodeText).map TextSet.ofList = .ok t ↔ _
      simp only [map_eq_ok_iff, items, Json.arr.injEq]
  | null | bool | num | str | obj => exact iff_of_false nofun nofun

theorem isExact_list {item : Schema α} (h : item.IsExact) : (Schema.list item).IsExact := by
  intro v as
  show _ ↔ ∃ vs, v = .arr vs ∧ List.Forall₂ item.Accepts vs as
  cases v with
  | arr vs =>
      show vs.mapM item.decode = .ok as ↔ _
      simp only [mapM_eq_ok_iff, h _ _, Json.arr.injEq, exists_eq_left']
  | null | bool | num | str | obj => exact iff_of_false nofun nofun

theorem isExact_option {value : Schema α} (h : value.IsExact) :
    (Schema.option value).IsExact := by
  intro v a
  show _ ↔ v = .null ∧ a = none ∨ v ≠ .null ∧ ∃ b, a = some b ∧ value.Accepts v b
  by_cases null : v = .null
  · subst null
    show Except.ok none = .ok a ↔ _
    simp [eq_comm]
  · rw [decode_option_of_ne null, map_eq_ok_iff]
    simp [null, h _ _, and_comm, eq_comm]

theorem isExact_nullAs {value : Schema α} (default : α) (h : value.IsExact) :
    (Schema.nullAs default value).IsExact := by
  intro v a
  show _ ↔ v = .null ∧ a = default ∨ v ≠ .null ∧ value.Accepts v a
  by_cases null : v = .null
  · subst null
    show Except.ok default = .ok a ↔ _
    simp [eq_comm]
  · rw [decode_nullAs_of_ne null, h v a]
    simp [null]

end Schema

namespace Row

variable {α ρ : Type} {name : String} {value : Schema α} {absent : Option α} {omitNull : Bool}
  {rest : Row ρ}

theorem map_cons_eq_ok_iff {x : Except Mismatch (ρ × List Json)} {a : α} {r : α × ρ} :
    x.map (fun s => ((a, s.1), s.2)) = .ok (r, []) ↔ a = r.1 ∧ x = .ok (r.2, []) := by
  rw [map_eq_ok_iff]
  constructor
  · rintro ⟨⟨more, left⟩, rfl, same⟩
    cases same
    exact ⟨rfl, rfl⟩
  · rintro ⟨rfl, rfl⟩
    exact ⟨_, rfl, rfl⟩

theorem ofItems_cons (record : String) (fields index : Nat) (v : Json) (vs : List Json) :
    (field name value absent omitNull rest).ofItems record fields index (v :: vs) =
      (value.decode v).bind fun a =>
        (rest.ofItems record fields (index + 1) vs).map fun s => ((a, s.1), s.2) := by
  rw [ofItems]
  cases value.decode v <;> rfl

/-- Each field takes the first of the items that are left. -/
theorem ofItems_iff : {ρ : Type} → (row : Row ρ) → row.IsExact → (record : String) →
    (fields index : Nat) → (vs : List Json) → (r : ρ) →
    (row.ofItems record fields index (vs.drop index) = .ok (r, []) ↔
      row.AcceptsItems vs index r)
  | _, .nil, _, _, _, index, vs, r => by
      show Except.ok ((), vs.drop index) = .ok (r, []) ↔ vs.length ≤ index
      simp
  | _, .field name value absent omitNull rest, exact, record, fields, index, vs, r => by
      show _ ↔ Holds value.Accepts absent vs[index]? r.1 ∧ rest.AcceptsItems vs (index + 1) r.2
      rw [← ofItems_iff rest exact.2.2 record fields (index + 1)]
      by_cases more : index < vs.length
      · rw [List.drop_eq_getElem_cons more, List.getElem?_eq_getElem more, holds_some_iff,
          ← exact.1, ofItems_cons]
        cases value.decode vs[index] with
        | error cause => exact iff_of_false nofun nofun
        | ok a =>
            rw [Except.ok.injEq]
            exact map_cons_eq_ok_iff
      · have ended : vs.length ≤ index := Nat.le_of_not_lt more
        rw [List.drop_eq_nil_of_le ended, List.drop_eq_nil_of_le (Nat.le_succ_of_le ended),
          List.getElem?_eq_none ended, holds_none_iff]
        cases absent with
        | none => exact iff_of_false nofun nofun
        | some a =>
            rw [Option.some.injEq]
            exact map_cons_eq_ok_iff

/-- What a field that is known so far makes of one member. -/
def takeMember (name : String) (value : Schema α) (known : Option α) (m : String × Json) :
    Except Mismatch (Option α) :=
  if m.1 = name then
    match known with
    | some _ => .error (.repeatedField name)
    | none => (value.decode m.2).map some
  else .ok known

theorem takeMember_of_ne {m : String × Json} (other : m.1 ≠ name) (known : Option α) :
    takeMember name value known m = .ok known :=
  if_neg other

theorem takeMember_none {m : String × Json} (same : m.1 = name) :
    takeMember name value none m = (value.decode m.2).map some :=
  if_pos same

theorem takeMember_some {m : String × Json} (same : m.1 = name) (a : α) :
    takeMember name value (some a) m = .error (.repeatedField name) :=
  if_pos same

theorem put_of_notMem : {ρ : Type} → (row : Row ρ) → {key : String} → key ∉ row.names →
    (v : Json) → (slots : row.Slots) → row.put key v slots = .ok slots
  | _, .nil, _, _, _, _ => rfl
  | _, .field name value absent omitNull rest, key, unknown, v, slots => by
      have other : key ≠ name := fun same => unknown (same ▸ List.mem_cons_self)
      have later : key ∉ rest.names := fun mem => unknown (List.mem_cons_of_mem name mem)
      have passed := put_of_notMem rest later v slots.2
      refine (if_neg other).trans ?_
      rw [passed]
      rfl

theorem put_field_iff (distinct : name ∉ rest.names) {known known' : Option α}
    {slots slots' : rest.Slots} {m : String × Json} :
    (field name value absent omitNull rest).put m.1 m.2 (known, slots) = .ok (known', slots') ↔
      takeMember name value known m = .ok known' ∧ rest.put m.1 m.2 slots = .ok slots' := by
  show (if m.1 = name then (match known with
      | some _ => .error (.repeatedField name)
      | none => (value.decode m.2).map fun a => (some a, slots))
    else (rest.put m.1 m.2 slots).map fun more => (known, more) :
      Except Mismatch (Option α × rest.Slots)) = Except.ok (known', slots') ↔ _
  by_cases same : m.1 = name
  · rw [if_pos same, put_of_notMem rest (same ▸ distinct)]
    cases known with
    | some a =>
        rw [takeMember_some same]
        exact iff_of_false nofun nofun
    | none =>
        rw [takeMember_none same]
        cases value.decode m.2 with
        | error cause => exact iff_of_false nofun nofun
        | ok a =>
            show Except.ok (some a, slots) = .ok (known', slots') ↔
              Except.ok (some a) = .ok known' ∧ Except.ok slots = .ok slots'
            simp
  · rw [if_neg same, takeMember_of_ne same, map_eq_ok_iff]
    simp [and_comm]

theorem foldlM_put_field_iff (distinct : name ∉ rest.names) {ms : List (String × Json)}
    {known known' : Option α} {slots slots' : rest.Slots} :
    ms.foldlM (fun s m => (field name value absent omitNull rest).put m.1 m.2 s) (known, slots) =
        .ok (known', slots') ↔
      ms.foldlM (takeMember name value) known = .ok known' ∧
        ms.foldlM (fun s m => rest.put m.1 m.2 s) slots = .ok slots' :=
  foldlM_pair_iff (fun _ _ _ _ _ => put_field_iff distinct) ms known slots known' slots'

theorem foldlM_takeMember_some_iff {ms : List (String × Json)} {a : α} {known : Option α} :
    ms.foldlM (takeMember name value) (some a) = .ok known ↔
      name ∉ ms.map (·.1) ∧ some a = known := by
  induction ms with
  | nil =>
      show Except.ok (some a) = .ok known ↔ _
      simp
  | cons m ms ih =>
      rw [foldlM_cons_eq_ok_iff]
      by_cases same : m.1 = name
      · rw [takeMember_some same]
        simp [same]
      · rw [takeMember_of_ne same]
        simp [ih, Ne.symm same]

/-- The only member with the name counts. -/
theorem foldlM_takeMember_iff {ms : List (String × Json)} {known : Option α} :
    ms.foldlM (takeMember name value) none = .ok known ↔
      Json.IsOnce name ms ∧ (Table.lookupEntry name ms).mapM value.decode = .ok known := by
  induction ms with
  | nil =>
      show Except.ok none = .ok known ↔ _ ∧ Except.ok none = .ok known
      simp [Json.IsOnce]
  | cons m ms ih =>
      rw [foldlM_cons_eq_ok_iff]
      by_cases same : m.1 = name
      · have once : Json.IsOnce name (m :: ms) ↔ name ∉ ms.map (·.1) := by
          rw [Json.IsOnce, List.map_cons, same, List.count_cons_self, Nat.succ_le_succ_iff,
            Nat.le_zero, List.count_eq_zero]
        have found : Table.lookupEntry name (m :: ms) = some m.2 := if_pos same.symm
        rw [takeMember_none same, once, found, mapM_some]
        cases value.decode m.2 with
        | error cause => simp [Except.map]
        | ok a => simp [Except.map, foldlM_takeMember_some_iff]
      · have once : Json.IsOnce name (m :: ms) ↔ Json.IsOnce name ms := by
          rw [Json.IsOnce, List.map_cons, List.count_cons_of_ne same, Json.IsOnce]
        have found : Table.lookupEntry name (m :: ms) = Table.lookupEntry name ms :=
          if_neg (Ne.symm same)
        rw [takeMember_of_ne same, once, found, ← ih]
        simp

/-- A field holds what was decoded for it, or else what stands in. -/
theorem holds_iff (exact : value.IsExact) {v? : Option Json} {a : α} :
    Holds value.Accepts absent v? a ↔
      ∃ known, v?.mapM value.decode = .ok known ∧ known.or absent = some a := by
  cases v? with
  | none =>
      show _ ↔ ∃ known, Except.ok none = .ok known ∧ _
      simp [holds_none_iff]
  | some v =>
      rw [holds_some_iff, ← exact, mapM_some]
      cases value.decode v with
      | error cause => simp [Except.map]
      | ok b => simp [Except.map]

theorem ofSlots_field_iff {known : Option α} {slots : rest.Slots} {r : α × ρ} :
    (field name value absent omitNull rest).ofSlots (known, slots) = .ok r ↔
      known.or absent = some r.1 ∧ rest.ofSlots slots = .ok r.2 := by
  simp only [ofSlots]
  cases known.or absent with
  | none => simp
  | some a =>
      rw [map_eq_ok_iff, Option.some.injEq]
      constructor
      · rintro ⟨more, others, rfl⟩
        exact ⟨rfl, others⟩
      · rintro ⟨rfl, others⟩
        exact ⟨r.2, others, rfl⟩

/-- Each field takes the member with its name, wherever that is. -/
theorem ofMembers_iff : {ρ : Type} → (row : Row ρ) → row.IsExact →
    (ms : List (String × Json)) → (r : ρ) →
    ((∃ slots, ms.foldlM (fun slots m => row.put m.1 m.2 slots) row.noSlots = .ok slots ∧
        row.ofSlots slots = .ok r) ↔
      (∀ name ∈ row.names, Json.IsOnce name ms) ∧ row.AcceptsMembers ms r)
  | _, .nil, _, ms, r => by
      have passed : ms.foldlM (fun slots m => nil.put m.1 m.2 slots) () = .ok () := by
        induction ms with
        | nil => rfl
        | cons m ms ih => exact ih
      exact iff_of_true ⟨(), passed, rfl⟩ ⟨nofun, trivial⟩
  | _, .field name value absent omitNull rest, exact, ms, r => by
      obtain ⟨first, new, later⟩ := exact
      have more := ofMembers_iff rest later ms r.2
      show _ ↔ (∀ other ∈ name :: rest.names, Json.IsOnce other ms) ∧
        Holds value.Accepts absent (Table.lookupEntry name ms) r.1 ∧ rest.AcceptsMembers ms r.2
      rw [List.forall_mem_cons, holds_iff first]
      constructor
      · rintro ⟨⟨known, slots⟩, arrived, made⟩
        obtain ⟨here, there⟩ := (foldlM_put_field_iff new).mp arrived
        obtain ⟨once, found⟩ := foldlM_takeMember_iff.mp here
        obtain ⟨held, made⟩ := ofSlots_field_iff.mp made
        obtain ⟨others, accepted⟩ := more.mp ⟨slots, there, made⟩
        exact ⟨⟨once, others⟩, ⟨known, found, held⟩, accepted⟩
      · rintro ⟨⟨once, others⟩, ⟨known, found, held⟩, accepted⟩
        obtain ⟨slots, there, made⟩ := more.mpr ⟨others, accepted⟩
        have here := foldlM_takeMember_iff.mpr ⟨once, found⟩
        exact ⟨(known, slots), (foldlM_put_field_iff new).mpr ⟨here, there⟩,
          ofSlots_field_iff.mpr ⟨held, made⟩⟩

end Row

/-- The parts of what is accepted are those that the fields hold. -/
theorem Schema.accepts_record_iff {ρ α : Type} {name : String} {row : Row ρ} {make : ρ → α}
    {parts : α → ρ} (made : ∀ r, parts (make r) = r) {v : Json} {a : α}
    (back : make (parts a) = a) : (Schema.record name row make parts).Accepts v a ↔
      (∃ vs, v = .arr vs ∧ row.AcceptsItems vs 0 (parts a)) ∨
        ∃ ms, v = .obj ms ∧ (∀ name ∈ row.names, Json.IsOnce name ms) ∧
          row.AcceptsMembers ms (parts a) := by
  constructor
  · rintro ⟨r, rfl, accepted⟩
    rw [made]
    exact accepted
  · intro accepted
    exact ⟨parts a, back, accepted⟩

theorem Schema.isExact_record {ρ α : Type} {name : String} {row : Row ρ} {make : ρ → α}
    {parts : α → ρ} (exact : row.IsExact) :
    (Schema.record name row make parts).IsExact := by
  intro v a
  show _ ↔ ∃ r, make r = a ∧ ((∃ vs, v = .arr vs ∧ row.AcceptsItems vs 0 r) ∨
    ∃ ms, v = .obj ms ∧ (∀ name ∈ row.names, Json.IsOnce name ms) ∧ row.AcceptsMembers ms r)
  cases v with
  | arr vs =>
      have items := row.ofItems_iff exact name row.size 0 vs
      rw [decode]
      simp only [← items, List.drop_zero, Json.arr.injEq, exists_eq_left', reduceCtorEq, false_and,
        exists_false, or_false]
      cases row.ofItems name row.size 0 vs with
      | error cause => simp
      | ok taken =>
          obtain ⟨r, left⟩ := taken
          cases left <;> simp [eq_comm]
  | obj ms =>
      have members := row.ofMembers_iff exact ms
      rw [decode]
      simp only [← members, Json.obj.injEq, exists_eq_left', reduceCtorEq, false_and, exists_false,
        false_or]
      cases ms.foldlM (fun slots m => row.put m.1 m.2 slots) row.noSlots with
      | error cause => simp
      | ok slots => simp [map_eq_ok_iff, and_comm]
  | null | bool | num | str =>
      refine iff_of_false (fun decoded => ?_) (by simp)
      cases decoded

mutual

theorem Schema.Lawful.isExact : {α : Type} → {s : Schema α} → s.Lawful → s.IsExact
  | _, .text, _ => Schema.isExact_text
  | _, .word, _ => Schema.isExact_word
  | _, .any, _ => Schema.isExact_any
  | _, .table, _ => Schema.isExact_table
  | _, .textSet, _ => Schema.isExact_textSet
  | _, .list _, lawful => Schema.isExact_list (Schema.Lawful.isExact lawful)
  | _, .option _, lawful => Schema.isExact_option (Schema.Lawful.isExact lawful)
  | _, .nullAs default _, lawful => Schema.isExact_nullAs default (Schema.Lawful.isExact lawful.1)
  | _, .record _ _ _ _, lawful =>
      Schema.isExact_record (Row.Lawful.isExact lawful.1)

theorem Row.Lawful.isExact : {ρ : Type} → {row : Row ρ} → row.Lawful → row.IsExact
  | _, .nil, _ => trivial
  | _, .field _ _ _ _ _, lawful =>
      ⟨Schema.Lawful.isExact lawful.1, lawful.2.2.2.1, Row.Lawful.isExact lawful.2.2.2.2⟩

end

end StreamPipelines
