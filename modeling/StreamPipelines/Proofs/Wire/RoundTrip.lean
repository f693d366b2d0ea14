import StreamPipelines.Proofs.Result
import StreamPipelines.Proofs.Table
import StreamPipelines.Wire.Decode
import StreamPipelines.Wire.Encode

/-!
Decoding what was encoded. The members of an encoded record come in the order of their names and
not in that of the row, and a field may have been left out, so decoding has to find each field by
its name and to fill in what is missing. Whatever a lawful schema decodes, its encoding is decoded
to the same value again.
-/

namespace StreamPipelines

/-- The value comes back from its encoding. -/
def Schema.RoundTrips {α : Type} (s : Schema α) (a : α) : Prop :=
  s.decode (s.encode a) = .ok a

/-- Whatever is decoded comes back from its encoding. -/
def Schema.Keeps {α : Type} (s : Schema α) : Prop :=
  ∀ v a, s.decode v = .ok a → s.RoundTrips a

namespace Row

def names : {ρ : Type} → Row ρ → List String
  | _, .nil => []
  | _, .field name _ _ _ rest => name :: rest.names

/-- The value of each field comes back from its encoding. -/
def RoundTrips : {ρ : Type} → Row ρ → ρ → Prop
  | _, .nil, _ => True
  | _, .field _ value _ _ rest, r => value.RoundTrips r.1 ∧ rest.RoundTrips r.2

end Row

mutual

/-- The parts of a record are what it was made of, no two fields have the same name, a field is
left out only if its absence stands for the value, and values that stand in come back from their
encodings. -/
def Schema.Lawful : {α : Type} → Schema α → Prop
  | _, .text | _, .word | _, .any | _, .table | _, .textSet => True
  | _, .list item => item.Lawful
  | _, .option value => value.Lawful
  | _, .nullAs default value => value.Lawful ∧ value.RoundTrips default
  | _, .record _ row make parts => row.Lawful ∧ ∀ r, parts (make r) = r

def Row.Lawful : {ρ : Type} → Row ρ → Prop
  | _, .nil => True
  | _, .field name value absent omitNull rest =>
      value.Lawful ∧ (∀ a, absent = some a → value.RoundTrips a) ∧
        (omitNull → ∀ a, value.encode a = .null → absent = some a) ∧
        name ∉ rest.names ∧ rest.Lawful

end

namespace Schema

variable {α : Type}

theorem decode_option_of_ne {value : Schema α} {v : Json} (h : v ≠ .null) :
    (Schema.option value).decode v = (value.decode v).map some := by
  cases v with
  | null => exact absurd rfl h
  | bool | num | str | arr | obj => rfl

theorem decode_nullAs_of_ne {value : Schema α} {default : α} {v : Json} (h : v ≠ .null) :
    (Schema.nullAs default value).decode v = value.decode v := by
  cases v with
  | null => exact absurd rfl h
  | bool | num | str | arr | obj => rfl

theorem roundTrips_text (s : String) : Schema.text.RoundTrips s := rfl

theorem roundTrips_any (v : Json) : Schema.any.RoundTrips v := rfl

theorem roundTrips_word (w : UInt64) : Schema.word.RoundTrips w := by
  have same : (Json.Number.ofWord w).word? = some w := by
    simp [Json.Number.ofWord, Json.Number.word?]
  rw [RoundTrips, encode, decode, decodeWord]
  simp only [same]

theorem roundTrips_table (t : Table Json) : Schema.table.RoundTrips t :=
  congrArg Except.ok t.ofList_entries

theorem roundTrips_textSet (t : TextSet) : Schema.textSet.RoundTrips t := by
  have items : (t.items.map Json.str).mapM decodeText = .ok t.items :=
    mapM_map_eq_ok fun _ _ => rfl
  rw [RoundTrips, encode, Json.ofStrings, decode, items]
  exact congrArg Except.ok t.ofList_items

theorem roundTrips_list {item : Schema α} {as : List α} (h : ∀ a ∈ as, item.RoundTrips a) :
    (Schema.list item).RoundTrips as := by
  rw [RoundTrips, encode, decode]
  exact mapM_map_eq_ok h

theorem roundTrips_none (value : Schema α) : (Schema.option value).RoundTrips none := rfl

theorem roundTrips_some {value : Schema α} {a : α} (h : value.RoundTrips a)
    (notNull : value.encode a ≠ .null) : (Schema.option value).RoundTrips (some a) := by
  rw [RoundTrips] at h ⊢
  rw [encode, decode_option_of_ne notNull, h]
  rfl

theorem roundTrips_nullAs {value : Schema α} {default a : α} (h : value.RoundTrips a)
    (null : value.encode a = .null → a = default) :
    (Schema.nullAs default value).RoundTrips a := by
  rw [RoundTrips] at h ⊢
  rw [encode]
  by_cases isNull : value.encode a = .null
  · rw [isNull, null isNull]
    rfl
  · rw [decode_nullAs_of_ne isNull, h]

/-- Nothing but null is decoded to a value that is encoded to null. -/
theorem eq_null_of_encode : {α : Type} → (s : Schema α) → {v : Json} → {a : α} →
    s.decode v = .ok a → s.encode a = .null → v = .null
  | _, .text, _, _, _, null | _, .word, _, _, _, null | _, .table, _, _, _, null
  | _, .textSet, _, _, _, null | _, .list _, _, _, _, null
  | _, .record .., _, _, _, null => by cases null
  | _, .any, _, _, decoded, null => by
      cases decoded
      exact null
  | _, .option value, v, a, decoded, null => by
      refine Decidable.byContradiction fun notNull => ?_
      rw [decode_option_of_ne notNull] at decoded
      obtain ⟨b, inner, rfl⟩ := exists_of_map_eq_ok decoded
      exact notNull (eq_null_of_encode value inner null)
  | _, .nullAs default value, v, a, decoded, null => by
      refine Decidable.byContradiction fun notNull => ?_
      rw [decode_nullAs_of_ne notNull] at decoded
      exact notNull (eq_null_of_encode value decoded null)

end Schema

namespace Row

variable {ρ : Type}

/-- The slots of a record of which the fields with the names `known` have arrived. -/
def filled (known : List String) : {ρ : Type} → (row : Row ρ) → ρ → row.Slots
  | _, .nil, _ => ()
  | _, .field name _ _ _ rest, r => (if name ∈ known then some r.1 else none, rest.filled known r.2)

theorem filled_congr {known others : List String} : {ρ : Type} → (row : Row ρ) → (r : ρ) →
    (∀ name ∈ row.names, name ∈ known ↔ name ∈ others) → row.filled known r = row.filled others r
  | _, .nil, _, _ => rfl
  | _, .field name _ _ _ rest, r, same => by
      obtain ⟨first, same⟩ := List.forall_mem_cons.mp same
      refine Prod.ext ?_ (filled_congr rest r.2 same)
      simp only [filled, first]

theorem filled_nil : {ρ : Type} → (row : Row ρ) → (r : ρ) → row.filled [] r = row.noSlots
  | _, .nil, _ => rfl
  | _, .field _ _ _ _ rest, r => by
      rw [filled, noSlots, filled_nil rest, if_neg List.not_mem_nil]

theorem fst_mem_names : {ρ : Type} → (row : Row ρ) → {r : ρ} → {m : String × Json} →
    m ∈ row.members r → m.1 ∈ row.names
  | _, .nil, _, _, h => by cases h
  | _, .field name value absent omitNull rest, r, m, h => by
      simp only [members] at h
      split at h
      · exact List.mem_cons_of_mem _ (fst_mem_names rest h)
      · obtain rfl | h := List.mem_cons.mp h
        · exact List.mem_cons_self
        · exact List.mem_cons_of_mem _ (fst_mem_names rest h)

/-- A member of the encoded record goes to the slot of its field. -/
theorem put_filled : {ρ : Type} → (row : Row ρ) → row.Lawful → {r : ρ} → row.RoundTrips r →
    {m : String × Json} → m ∈ row.members r → {known : List String} → m.1 ∉ known →
    row.put m.1 m.2 (row.filled known r) = .ok (row.filled (m.1 :: known) r)
  | _, .nil, _, _, _, _, h, _, _ => by cases h
  | _, .field name value absent omitNull rest, lawful, r, comesBack, m, h, known, fresh => by
      obtain ⟨-, -, -, distinct, lawful⟩ := lawful
      obtain ⟨first, others⟩ := comesBack
      have here : m = (name, value.encode r.1) ∨ m ∈ rest.members r.2 := by
        simp only [members] at h
        split at h
        · exact .inr h
        · exact List.mem_cons.mp h
      obtain rfl | later := here
      · have same : rest.filled (name :: known) r.2 = rest.filled known r.2 :=
          filled_congr rest r.2 fun other named => by
            have ne : other ≠ name := fun h => distinct (h ▸ named)
            simp [ne]
        rw [Schema.RoundTrips] at first
        simp only [put, filled, if_neg fresh, first, same]
        simp [Except.map]
      · have ne : m.1 ≠ name := fun h => distinct (h ▸ fst_mem_names rest later)
        simp only [put, filled, if_neg ne, put_filled rest lawful others later fresh]
        simp [Except.map, ne.symm]

theorem foldlM_put_filled {row : Row ρ} (lawful : row.Lawful) {r : ρ} (h : row.RoundTrips r)
    {ms : List (String × Json)} (among : ∀ m ∈ ms, m ∈ row.members r)
    (distinct : (ms.map (·.1)).Nodup) {known : List String} (fresh : ∀ m ∈ ms, m.1 ∉ known) :
    ms.foldlM (fun slots m => row.put m.1 m.2 slots) (row.filled known r) =
      .ok (row.filled ((ms.map (·.1)).reverse ++ known) r) := by
  induction ms generalizing known with
  | nil => rfl
  | cons m ms ih =>
      obtain ⟨member, among⟩ := List.forall_mem_cons.mp among
      obtain ⟨unknown, fresh⟩ := List.forall_mem_cons.mp fresh
      obtain ⟨other, distinct⟩ := List.nodup_cons.mp distinct
      have later : ∀ d ∈ ms, d.1 ∉ m.1 :: known := by
        intro d hd mem
        obtain same | mem := List.mem_cons.mp mem
        · exact other (List.mem_map.mpr ⟨d, hd, same⟩)
        · exact fresh d hd mem
      rw [List.foldlM_cons, put_filled row lawful h member unknown]
      refine (ih among distinct later).trans ?_
      rw [List.map_cons, List.reverse_cons, List.append_assoc, List.singleton_append]

/-- A field that has not arrived is one that was left out. -/
theorem ofSlots_filled {known : List String} : {ρ : Type} → (row : Row ρ) → row.Lawful → {r : ρ} →
    (∀ m ∈ row.members r, m.1 ∈ known) → row.ofSlots (row.filled known r) = .ok r
  | _, .nil, _, _, _ => rfl
  | _, .field name value absent omitNull rest, lawful, r, arrived => by
      obtain ⟨-, -, omitted, -, lawful⟩ := lawful
      simp only [members] at arrived
      by_cases left : omitNull ∧ value.encode r.1 = .null
      · rw [if_pos left] at arrived
        have standIn := omitted left.1 r.1 left.2
        have found : (if name ∈ known then some r.1 else none).or absent = some r.1 := by
          split
          · rfl
          · exact standIn
        simp only [ofSlots, filled, found, ofSlots_filled rest lawful arrived]
        rfl
      · rw [if_neg left] at arrived
        obtain ⟨here, arrived⟩ := List.forall_mem_cons.mp arrived
        simp only [ofSlots, filled, if_pos here, Option.some_or,
          ofSlots_filled rest lawful arrived]
        rfl

end Row

theorem Schema.roundTrips_record {ρ α : Type} {name : String} {row : Row ρ} {make : ρ → α}
    {parts : α → ρ} (lawful : row.Lawful) {a : α} (h : row.RoundTrips (parts a))
    (made : make (parts a) = a) : (Schema.record name row make parts).RoundTrips a := by
  have among : ∀ m ∈ (Table.ofList (row.members (parts a))).entries, m ∈ row.members (parts a) :=
    fun _ => Table.mem_of_mem_ofList
  have distinct := (Table.ofList (row.members (parts a))).nodup_names
  have fresh : ∀ m ∈ (Table.ofList (row.members (parts a))).entries, m.1 ∉ ([] : List String) :=
    fun _ _ => List.not_mem_nil
  have arrive := Row.foldlM_put_filled lawful h among distinct fresh
  have all : ∀ m ∈ row.members (parts a),
      m.1 ∈ (Table.ofList (row.members (parts a))).names.reverse ++ [] := by
    intro m member
    simpa using Table.mem_names_ofList.mpr (List.mem_map_of_mem member)
  rw [Row.filled_nil] at arrive
  rw [RoundTrips, encode, Json.ofTable, decode, arrive]
  simp only [Table.names] at all
  simp only [Row.ofSlots_filled row lawful all, Except.map, made]

namespace Row

/-- Whatever is decoded for a field comes back, and so does what stands in for it. -/
def Keeps : {ρ : Type} → Row ρ → Prop
  | _, .nil => True
  | _, .field _ value absent _ rest =>
      value.Keeps ∧ (∀ a, absent = some a → value.RoundTrips a) ∧ rest.Keeps

/-- What has arrived comes back. -/
def SlotsRoundTrip : {ρ : Type} → (row : Row ρ) → row.Slots → Prop
  | _, .nil, _ => True
  | _, .field _ value _ _ rest, slots =>
      (∀ a, slots.1 = some a → value.RoundTrips a) ∧ rest.SlotsRoundTrip slots.2

theorem slotsRoundTrip_noSlots : {ρ : Type} → (row : Row ρ) → row.SlotsRoundTrip row.noSlots
  | _, .nil => trivial
  | _, .field _ _ _ _ rest => ⟨nofun, slotsRoundTrip_noSlots rest⟩

theorem slotsRoundTrip_put : {ρ : Type} → (row : Row ρ) → row.Keeps → {key : String} → {v : Json} →
    {slots after : row.Slots} → row.SlotsRoundTrip slots → row.put key v slots = .ok after →
    row.SlotsRoundTrip after
  | _, .nil, _, _, _, _, _, _, _ => trivial
  | _, .field name value absent omitNull rest, keeps, key, v, slots, after, h, arrived => by
      obtain ⟨kept, -, keeps⟩ := keeps
      simp only [put] at arrived
      split at arrived
      · split at arrived
        · cases arrived
        · obtain ⟨a, decoded, rfl⟩ := exists_of_map_eq_ok arrived
          refine ⟨fun b same => ?_, h.2⟩
          cases same
          exact kept v a decoded
      · obtain ⟨more, later, rfl⟩ := exists_of_map_eq_ok arrived
        exact ⟨h.1, slotsRoundTrip_put rest keeps h.2 later⟩

theorem roundTrips_of_ofSlots : {ρ : Type} → (row : Row ρ) → row.Keeps → {slots : row.Slots} →
    row.SlotsRoundTrip slots → {r : ρ} → row.ofSlots slots = .ok r → row.RoundTrips r
  | _, .nil, _, _, _, _, _ => trivial
  | _, .field name value absent omitNull rest, keeps, slots, h, r, made => by
      obtain ⟨-, standIn, keeps⟩ := keeps
      simp only [ofSlots] at made
      split at made
      · cases made
      · rename_i a found
        obtain ⟨more, later, rfl⟩ := exists_of_map_eq_ok made
        refine ⟨?_, roundTrips_of_ofSlots rest keeps h.2 later⟩
        obtain arrived | ⟨-, missing⟩ := Option.or_eq_some_iff.mp found
        · exact h.1 a arrived
        · exact standIn a missing

theorem roundTrips_of_ofItems : {ρ : Type} → (row : Row ρ) → row.Keeps → {record : String} →
    {fields index : Nat} → {vs : List Json} → {r : ρ} → {others : List Json} →
    row.ofItems record fields index vs = .ok (r, others) → row.RoundTrips r
  | _, .nil, _, _, _, _, _, _, _, _ => trivial
  | _, .field name value absent omitNull rest, keeps, record, fields, index, vs, r, others,
      made => by
      obtain ⟨kept, standIn, keeps⟩ := keeps
      simp only [ofItems] at made
      split at made
      · cases made
      · rename_i a
        obtain ⟨more, later, same⟩ := exists_of_map_eq_ok made
        cases same
        exact ⟨standIn a rfl, roundTrips_of_ofItems rest keeps later⟩
      · rename_i v vs
        split at made
        · cases made
        · rename_i a decoded
          obtain ⟨more, later, same⟩ := exists_of_map_eq_ok made
          cases same
          exact ⟨kept v a decoded, roundTrips_of_ofItems rest keeps later⟩

end Row

namespace Schema

variable {α : Type}

theorem keeps_list {item : Schema α} (h : item.Keeps) : (Schema.list item).Keeps := by
  intro v as decoded
  refine roundTrips_list fun a ha => ?_
  cases v with
  | arr vs =>
      rw [decode] at decoded
      obtain ⟨v, decoded⟩ := exists_of_mapM_eq_ok decoded ha
      exact h v a decoded
  | null | bool | num | str | obj => cases decoded

theorem keeps_option {value : Schema α} (h : value.Keeps) : (Schema.option value).Keeps := by
  intro v a decoded
  by_cases null : v = .null
  · subst null
    cases decoded
    exact roundTrips_none value
  · rw [decode_option_of_ne null] at decoded
    obtain ⟨b, inner, rfl⟩ := exists_of_map_eq_ok decoded
    exact roundTrips_some (h v b inner) fun encoded =>
      null (eq_null_of_encode value inner encoded)

theorem keeps_nullAs {value : Schema α} {default : α} (h : value.Keeps)
    (standIn : value.RoundTrips default) : (Schema.nullAs default value).Keeps := by
  intro v a decoded
  by_cases null : v = .null
  · subst null
    cases decoded
    exact roundTrips_nullAs standIn fun _ => rfl
  · rw [decode_nullAs_of_ne null] at decoded
    exact roundTrips_nullAs (h v a decoded) fun encoded =>
      absurd (eq_null_of_encode value decoded encoded) null

theorem keeps_record {ρ : Type} {name : String} {row : Row ρ} {make : ρ → α} {parts : α → ρ}
    (lawful : row.Lawful) (keeps : row.Keeps) (made : ∀ r, parts (make r) = r) :
    (Schema.record name row make parts).Keeps := by
  have back (r : ρ) (h : row.RoundTrips r) :
      (Schema.record name row make parts).RoundTrips (make r) :=
    roundTrips_record lawful ((made r).symm ▸ h) (by rw [made r])
  intro v a decoded
  cases v with
  | arr vs =>
      rw [decode] at decoded
      split at decoded
      · cases decoded
      · rename_i r items
        cases decoded
        exact back r (row.roundTrips_of_ofItems keeps items)
      · cases decoded
  | obj ms =>
      rw [decode] at decoded
      split at decoded
      · cases decoded
      · rename_i slots arrived
        obtain ⟨r, filled, rfl⟩ := exists_of_map_eq_ok decoded
        have sound := foldlM_invariant
          (fun _ _ _ h put => row.slotsRoundTrip_put keeps h put) row.slotsRoundTrip_noSlots arrived
        exact back r (row.roundTrips_of_ofSlots keeps sound filled)
  | null | bool | num | str => cases decoded

end Schema

mutual

theorem Schema.Lawful.keeps : {α : Type} → {s : Schema α} → s.Lawful → s.Keeps
  | _, .text, _ => fun _ s _ => Schema.roundTrips_text s
  | _, .word, _ => fun _ w _ => Schema.roundTrips_word w
  | _, .any, _ => fun _ v _ => Schema.roundTrips_any v
  | _, .table, _ => fun _ t _ => Schema.roundTrips_table t
  | _, .textSet, _ => fun _ t _ => Schema.roundTrips_textSet t
  | _, .list _, lawful => Schema.keeps_list (Schema.Lawful.keeps lawful)
  | _, .option _, lawful => Schema.keeps_option (Schema.Lawful.keeps lawful)
  | _, .nullAs _ _, lawful => Schema.keeps_nullAs (Schema.Lawful.keeps lawful.1) lawful.2
  | _, .record _ _ _ _, lawful =>
      Schema.keeps_record lawful.1 (Row.Lawful.keeps lawful.1) lawful.2

theorem Row.Lawful.keeps : {ρ : Type} → {row : Row ρ} → row.Lawful → row.Keeps
  | _, .nil, _ => trivial
  | _, .field _ _ _ _ _, lawful =>
      ⟨Schema.Lawful.keeps lawful.1, lawful.2.1, Row.Lawful.keeps lawful.2.2.2.2⟩

end

end StreamPipelines
