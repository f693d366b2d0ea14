import StreamPipelines.Message.Changes
import StreamPipelines.Proofs.Table
import StreamPipelines.Proofs.Text.Utf8

/-!
Changes as a patch. A change can be made in a table that has the old text in its field, and leaves
the new one there: it adds the field, removes it or overwrites it.

The main statement: the changes from one message to another are in the order of the bytes of their
fields, name the fields whose texts differ and no others, turn the texts of the one message into
those of the other, and are the changes the other way with old and new exchanged.
-/

namespace StreamPipelines

namespace Change

/-- The table after the change; nothing if the field has another text than the old one. -/
def applyTo? (t : Table String) (c : Change) : Option (Table String) :=
  if t.get? c.field = c.old then
    match c.kind with
    | .added | .changed => c.new.map (t.insert c.field)
    | .removed => some (t.erase c.field)
  else none

def applyAll? (t : Table String) (cs : List Change) : Option (Table String) :=
  cs.foldlM applyTo? t

def Kind.swap : Kind → Kind
  | .added => .removed
  | .removed => .added
  | .changed => .changed

def swap (c : Change) : Change :=
  ⟨c.field, c.new, c.old⟩

/-- The changes lead from one table to the other, in the order of the bytes of their fields and
without an idle one: they name just the fields that differ. -/
structure IsPatch (old new : Table String) (cs : List Change) : Prop where
  rising : (cs.map fun c => Text.utf8 c.field).Pairwise (· < ·)
  applied : applyAll? old cs = some new
  fields : ∀ name, name ∈ cs.map (·.field) ↔ old.get? name ≠ new.get? name
  eq_nil_iff : cs = [] ↔ old = new
  differ : ∀ c ∈ cs, c.old ≠ c.new

variable {old new : Table String}

theorem kind_swap (c : Change) : c.swap.kind = c.kind.swap := by
  obtain ⟨field, old, new⟩ := c
  cases old <;> cases new <;> rfl

/-- A change that is made leaves the new text in its field, and the other fields alone. -/
theorem exists_applyTo? {t : Table String} {name : String} {before after : Option String}
    (fits : t.get? name = before) (differ : before ≠ after) :
    ∃ u, applyTo? t ⟨name, before, after⟩ = some u ∧ u.get? name = after ∧
      ∀ other, other ≠ name → u.get? other = t.get? other := by
  cases after with
  | none =>
      obtain ⟨text, rfl⟩ := Option.ne_none_iff_exists'.mp differ
      refine ⟨t.erase name, if_pos fits, ?_, fun other elsewhere => ?_⟩
      · rw [Table.get?_erase, if_pos rfl]
      · rw [Table.get?_erase, if_neg elsewhere]
  | some text =>
      refine ⟨t.insert name text, ?_, ?_, fun other elsewhere => ?_⟩
      · cases before <;> exact if_pos fits
      · rw [Table.get?_insert, if_pos rfl]
      · rw [Table.get?_insert, if_neg elsewhere]

theorem ofTables_of_same {name : String} (same : old.get? name = new.get? name) :
    ofTables old new name = none :=
  if_pos same

theorem ofTables_of_differ {name : String} (differ : old.get? name ≠ new.get? name) :
    ofTables old new name = some ⟨name, old.get? name, new.get? name⟩ :=
  if_neg differ

theorem ofTables_eq_some {name : String} {c : Change} (h : ofTables old new name = some c) :
    old.get? name ≠ new.get? name ∧ c = ⟨name, old.get? name, new.get? name⟩ := by
  by_cases same : old.get? name = new.get? name
  · rw [ofTables_of_same same] at h
    cases h
  · rw [ofTables_of_differ same] at h
    exact ⟨same, (Option.some.inj h).symm⟩

/-- The names of both tables, in order and without repetition. -/
def namesOf (old new : Table String) : TextSet :=
  .ofList (old.names ++ new.names)

theorem mem_namesOf_of_differ {name : String} (differ : old.get? name ≠ new.get? name) :
    name ∈ namesOf old new := by
  apply TextSet.mem_ofList.mpr
  rw [List.mem_append, ← Table.isSome_get?, ← Table.isSome_get?]
  cases before : old.get? name with
  | some value => exact .inl rfl
  | none =>
      cases after : new.get? name with
      | some value => exact .inr rfl
      | none => exact absurd (before.trans after.symm) differ

theorem namesOf_comm (old new : Table String) : namesOf new old = namesOf old new := by
  apply TextSet.ext
  intro name
  simp only [namesOf, TextSet.mem_ofList, List.mem_append]
  exact or_comm

theorem mem_between_iff {c : Change} :
    c ∈ between old new ↔
      old.get? c.field ≠ new.get? c.field ∧ c = ⟨c.field, old.get? c.field, new.get? c.field⟩ := by
  constructor
  · intro h
    obtain ⟨name, -, found⟩ := List.mem_filterMap.mp h
    obtain ⟨differ, rfl⟩ := ofTables_eq_some found
    exact ⟨differ, rfl⟩
  · intro ⟨differ, shape⟩
    refine List.mem_filterMap.mpr ⟨c.field, mem_namesOf_of_differ differ, ?_⟩
    rw [ofTables_of_differ differ, ← shape]

theorem mem_fields_between {name : String} :
    name ∈ (between old new).map (·.field) ↔ old.get? name ≠ new.get? name := by
  constructor
  · intro h
    obtain ⟨c, hc, rfl⟩ := List.mem_map.mp h
    exact (mem_between_iff.mp hc).1
  · intro differ
    exact List.mem_map.mpr
      ⟨⟨name, old.get? name, new.get? name⟩, mem_between_iff.mpr ⟨differ, rfl⟩, rfl⟩

theorem differ_of_mem_between {c : Change} (h : c ∈ between old new) : c.old ≠ c.new := by
  obtain ⟨differ, shape⟩ := mem_between_iff.mp h
  rw [shape]
  exact differ

theorem between_eq_nil_iff : between old new = [] ↔ old = new := by
  constructor
  · intro none
    apply Table.ext_get?
    intro name
    refine Decidable.byContradiction fun differ => ?_
    have named := mem_fields_between.mpr differ
    rw [none] at named
    cases named
  · rintro rfl
    refine List.eq_nil_iff_forall_not_mem.mpr fun c hc => ?_
    exact (mem_between_iff.mp hc).1 rfl

theorem rising_between (old new : Table String) :
    (between old new).Pairwise fun c d => c.field < d.field := by
  refine List.Pairwise.filterMap _ ?_ (namesOf old new).sorted
  intro name other below c hc d hd
  obtain ⟨-, rfl⟩ := ofTables_eq_some hc
  obtain ⟨-, rfl⟩ := ofTables_eq_some hd
  exact below

/-- Each field is changed at most once, so that a change meets the text that the field had before
the others. -/
theorem exists_applyAll? (old new : Table String) {names : List String} (distinct : names.Nodup)
    {t : Table String} (start : ∀ name ∈ names, t.get? name = old.get? name) :
    ∃ u, applyAll? t (names.filterMap (ofTables old new)) = some u ∧
      (∀ name ∈ names, u.get? name = new.get? name) ∧
      ∀ name, name ∉ names → u.get? name = t.get? name := by
  induction names generalizing t with
  | nil => exact ⟨t, rfl, fun _ h => absurd h List.not_mem_nil, fun _ _ => rfl⟩
  | cons first names ih =>
      obtain ⟨fresh, distinct⟩ := List.nodup_cons.mp distinct
      obtain ⟨atFirst, start⟩ := List.forall_mem_cons.mp start
      by_cases same : old.get? first = new.get? first
      · obtain ⟨u, applied, named, unnamed⟩ := ih distinct start
        rw [List.filterMap_cons_none (ofTables_of_same same)]
        refine ⟨u, applied, List.forall_mem_cons.mpr ⟨?_, named⟩, fun name h => ?_⟩
        · rw [unnamed first fresh, atFirst, same]
        · exact unnamed name fun later => h (List.mem_cons_of_mem first later)
      · obtain ⟨next, made, here, elsewhere⟩ := exists_applyTo? atFirst same
        have others : ∀ name ∈ names, next.get? name = old.get? name := by
          intro name hname
          rw [elsewhere name fun same => fresh (same ▸ hname)]
          exact start name hname
        obtain ⟨u, applied, named, unnamed⟩ := ih distinct others
        rw [List.filterMap_cons_some (ofTables_of_differ same)]
        refine ⟨u, ?_, List.forall_mem_cons.mpr ⟨?_, named⟩, fun name h => ?_⟩
        · rw [applyAll?, List.foldlM_cons, made]
          exact applied
        · rw [unnamed first fresh, here]
        · have later : name ∉ names := fun later => h (List.mem_cons_of_mem first later)
          have other : name ≠ first := fun same => h (same ▸ List.mem_cons_self)
          rw [unnamed name later, elsewhere name other]

theorem applyAll?_between (old new : Table String) :
    applyAll? old (between old new) = some new := by
  have distinct : (namesOf old new).items.Nodup :=
    (namesOf old new).sorted.imp fun {a b} (below : a < b) (same : a = b) =>
      String.lt_irrefl _ (same ▸ below)
  obtain ⟨u, applied, named, unnamed⟩ := exists_applyAll? old new distinct fun _ _ => rfl
  have reached : u = new := by
    apply Table.ext_get?
    intro name
    by_cases listed : name ∈ namesOf old new
    · exact named name listed
    · rw [unnamed name listed]
      exact Decidable.byContradiction fun differ => listed (mem_namesOf_of_differ differ)
  exact reached ▸ applied

theorem ofTables_swap (old new : Table String) (name : String) :
    ofTables new old name = (ofTables old new name).map swap := by
  by_cases same : old.get? name = new.get? name
  · rw [ofTables_of_same same, ofTables_of_same same.symm, Option.map_none]
  · rw [ofTables_of_differ same, ofTables_of_differ (Ne.symm same), Option.map_some, swap]

theorem between_swap (old new : Table String) :
    between new old = (between old new).map swap := by
  have flipped : ofTables new old = fun name => (ofTables old new name).map swap :=
    funext (ofTables_swap old new)
  have names : (namesOf new old).items = (namesOf old new).items :=
    congrArg TextSet.items (namesOf_comm old new)
  calc between new old
      _ = (namesOf new old).items.filterMap (ofTables new old) := rfl
      _ = (namesOf old new).items.filterMap fun name => (ofTables old new name).map swap := by
        rw [names, flipped]
      _ = (between old new).map swap := List.map_filterMap.symm

theorem isPatch_between (old new : Table String) : IsPatch old new (between old new) where
  rising := List.pairwise_map.mpr ((rising_between old new).imp Text.utf8_lt_utf8)
  applied := applyAll?_between old new
  fields _ := mem_fields_between
  eq_nil_iff := between_eq_nil_iff
  differ _ := differ_of_mem_between

end Change

namespace Message

/-- The changes between two messages are a patch of their visible texts without an idle change, and
the changes back are the same with old and new exchanged, what was added removed and what was
removed added. -/
theorem isPatch_changes (loaded simulated : Message) :
    Change.IsPatch loaded.visibleTexts simulated.visibleTexts (loaded.changes simulated) ∧
    simulated.changes loaded = (loaded.changes simulated).map Change.swap ∧
    ∀ c ∈ loaded.changes simulated, c.swap.kind = c.kind.swap := by
  exact ⟨Change.isPatch_between _ _, Change.between_swap _ _, fun c _ => c.kind_swap⟩

end Message
end StreamPipelines
