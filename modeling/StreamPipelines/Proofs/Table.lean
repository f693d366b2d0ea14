import StreamPipelines.Table
import StreamPipelines.TextSet

/-!
Writing entries into a table, and texts into a set. What is in their order already stays as it is,
so a table is made again of its entries, and a set of its items. A table that is made of entries
has an entry for each of their names, and no other entries than these. Tables with the same look-ups
are the same table, and sets with the same members the same set.
-/

namespace StreamPipelines

/-- What is in the order of its keys is known by its members. -/
theorem eq_of_sorted {α : Type} {key : α → String} {xs ys : List α}
    (hx : xs.Pairwise fun a b => key a < key b) (hy : ys.Pairwise fun a b => key a < key b)
    (same : ∀ a, a ∈ xs ↔ a ∈ ys) : xs = ys := by
  have distinct {zs : List α} (hz : zs.Pairwise fun a b => key a < key b) : zs.Nodup :=
    hz.imp fun {a b} (below : key a < key b) (same : a = b) => String.lt_irrefl _ (same ▸ below)
  have asymm (a b : α) (_ : a ∈ xs) (_ : b ∈ ys) (below : key a < key b)
      (above : key b < key a) : a = b :=
    absurd (String.lt_trans below above) (String.lt_irrefl _)
  exact List.Perm.eq_of_pairwise asymm hx hy
    ((List.perm_ext_iff_of_nodup (distinct hx) (distinct hy)).mpr same)

namespace Table

variable {α β : Type}

theorem insertEntry_of_lt {name : String} (value : α) {es : List (String × α)}
    (below : ∀ e ∈ es, e.1 < name) : insertEntry name value es = es ++ [(name, value)] := by
  induction es with
  | nil => rfl
  | cons e es ih =>
      obtain ⟨first, rest⟩ := List.forall_mem_cons.mp below
      have notBefore : ¬name < e.1 := fun h => String.lt_irrefl _ (String.lt_trans first h)
      have other : name ≠ e.1 := fun h => String.lt_irrefl _ (h ▸ first)
      rw [insertEntry, if_neg notBefore, if_neg other, ih rest, List.cons_append]

theorem entries_foldl_insert (t : Table α) {es : List (String × α)}
    (sorted : (t.entries ++ es).Pairwise fun a b => a.1 < b.1) :
    (es.foldl (fun t e => t.insert e.1 e.2) t).entries = t.entries ++ es := by
  induction es generalizing t with
  | nil => exact (List.append_nil _).symm
  | cons e es ih =>
      have below : ∀ d ∈ t.entries, d.1 < e.1 :=
        fun d hd => (List.pairwise_append.mp sorted).2.2 d hd e List.mem_cons_self
      have inserted : (t.insert e.1 e.2).entries = t.entries ++ [e] := insertEntry_of_lt e.2 below
      rw [List.foldl_cons, ih, inserted, List.append_assoc, List.singleton_append]
      rwa [inserted, List.append_assoc]

theorem ofList_entries (t : Table α) : ofList t.entries = t := by
  have same : (ofList t.entries).entries = t.entries := entries_foldl_insert empty t.sorted
  cases t
  exact mk.injEq .. |>.mpr same

theorem isSome_get? {t : Table α} {name : String} : (t.get? name).isSome ↔ name ∈ t.names := by
  obtain ⟨es, sorted⟩ := t
  simp only [get?, names]
  clear sorted
  induction es with
  | nil => simp [lookupEntry]
  | cons e es ih =>
      by_cases found : name = e.1
      · simp [lookupEntry, found]
      · simp [lookupEntry, found, ih]

theorem nodup_names (t : Table α) : t.names.Nodup :=
  List.pairwise_map.mpr (t.sorted.imp fun {a b} (below : a.1 < b.1) (same : a.1 = b.1) =>
    String.lt_irrefl _ (same ▸ below))

theorem mem_names_insert {t : Table α} {name other : String} {value : α} :
    other ∈ (t.insert name value).names ↔ other = name ∨ other ∈ t.names := by
  rw [← isSome_get?, ← isSome_get?, get?_insert]
  by_cases same : other = name <;> simp [same]

theorem mem_names_ofList {name : String} {es : List (String × α)} :
    name ∈ (ofList es).names ↔ name ∈ es.map (·.1) := by
  have written (t : Table α) : name ∈ (es.foldl (fun t e => t.insert e.1 e.2) t).names ↔
      name ∈ t.names ∨ name ∈ es.map (·.1) := by
    induction es generalizing t with
    | nil => simp
    | cons e es ih =>
        rw [List.foldl_cons, ih, mem_names_insert, List.map_cons, List.mem_cons, or_assoc]
        exact or_left_comm
  exact (written empty).trans (or_iff_right List.not_mem_nil)

theorem mem_of_mem_insertEntry {name : String} {value : α} {es : List (String × α)}
    {e : String × α} (h : e ∈ insertEntry name value es) : e = (name, value) ∨ e ∈ es := by
  induction es with
  | nil => exact .inl (List.mem_singleton.mp h)
  | cons d es ih =>
      rw [insertEntry] at h
      split at h
      · exact List.mem_cons.mp h
      · split at h
        · exact (List.mem_cons.mp h).imp_right (List.mem_cons_of_mem d)
        · obtain rfl | h := List.mem_cons.mp h
          · exact .inr List.mem_cons_self
          · exact (ih h).imp_right (List.mem_cons_of_mem d)

theorem mem_of_mem_foldl_insert {t : Table α} {es : List (String × α)} {e : String × α}
    (h : e ∈ (es.foldl (fun t e => t.insert e.1 e.2) t).entries) : e ∈ t.entries ∨ e ∈ es := by
  induction es generalizing t with
  | nil => exact .inl h
  | cons d es ih =>
      obtain h | h := ih h
      · obtain rfl | h := mem_of_mem_insertEntry h
        · exact .inr List.mem_cons_self
        · exact .inl h
      · exact .inr (List.mem_cons_of_mem d h)

theorem mem_of_mem_ofList {es : List (String × α)} {e : String × α}
    (h : e ∈ (ofList es).entries) : e ∈ es :=
  (mem_of_mem_foldl_insert h).resolve_left List.not_mem_nil

theorem get?_eq_some_iff {t : Table α} {name : String} {value : α} :
    t.get? name = some value ↔ (name, value) ∈ t.entries := by
  obtain ⟨es, sorted⟩ := t
  simp only [get?]
  induction es with
  | nil => simp [lookupEntry]
  | cons e es ih =>
      obtain ⟨above, sorted⟩ := List.pairwise_cons.mp sorted
      simp only [lookupEntry, List.mem_cons]
      split
      · rename_i first
        have later : (name, value) ∉ es := fun h => String.lt_irrefl _ (first ▸ above _ h)
        constructor
        · rintro ⟨⟩
          exact .inl (Prod.ext first rfl)
        · rintro (rfl | h)
          · rfl
          · exact absurd h later
      · rename_i other
        rw [ih sorted]
        exact ⟨.inr, fun h => h.resolve_left fun same => other (congrArg Prod.fst same)⟩

theorem ext_get? {t u : Table α} (same : ∀ name, t.get? name = u.get? name) : t = u := by
  have entries : t.entries = u.entries := by
    refine eq_of_sorted t.sorted u.sorted fun (name, value) => ?_
    rw [← get?_eq_some_iff, ← get?_eq_some_iff, same]
  cases t
  exact mk.injEq .. |>.mpr entries

theorem get?_filterNames (p : String → Bool) (t : Table α) (name : String) :
    (t.filterNames p).get? name = if p name then t.get? name else none := by
  obtain ⟨es, sorted⟩ := t
  simp only [get?, filterNames]
  clear sorted
  induction es with
  | nil => simp [lookupEntry]
  | cons e es ih =>
      by_cases found : name = e.1
      · subst found
        by_cases kept : p e.1 <;> simp_all [lookupEntry]
      · by_cases kept : p e.1 <;> simp_all [lookupEntry]

theorem get?_mapValues (f : α → β) (t : Table α) (name : String) :
    (t.mapValues f).get? name = (t.get? name).map f := by
  obtain ⟨es, sorted⟩ := t
  simp only [get?, mapValues]
  clear sorted
  induction es with
  | nil => rfl
  | cons e es ih =>
      simp only [List.map_cons, lookupEntry, ih]
      split <;> rfl

def erase (t : Table α) (name : String) : Table α :=
  t.filterNames (· ≠ name)

theorem get?_erase (t : Table α) (name other : String) :
    (t.erase name).get? other = if other = name then none else t.get? other := by
  rw [erase, get?_filterNames]
  by_cases same : other = name <;> simp [same]

end Table

namespace TextSet

theorem insertItem_of_lt {s : String} {ts : List String} (below : ∀ t ∈ ts, t < s) :
    insertItem s ts = ts ++ [s] := by
  induction ts with
  | nil => rfl
  | cons t ts ih =>
      obtain ⟨first, rest⟩ := List.forall_mem_cons.mp below
      have notBefore : ¬s < t := fun h => String.lt_irrefl _ (String.lt_trans first h)
      have other : s ≠ t := fun h => String.lt_irrefl _ (h ▸ first)
      rw [insertItem, if_neg notBefore, if_neg other, ih rest, List.cons_append]

theorem items_foldl_insert (t : TextSet) {ss : List String}
    (sorted : (t.items ++ ss).Pairwise (· < ·)) : (ss.foldl insert t).items = t.items ++ ss := by
  induction ss generalizing t with
  | nil => exact (List.append_nil _).symm
  | cons s ss ih =>
      have below : ∀ r ∈ t.items, r < s :=
        fun r hr => (List.pairwise_append.mp sorted).2.2 r hr s List.mem_cons_self
      have inserted : (t.insert s).items = t.items ++ [s] := insertItem_of_lt below
      rw [List.foldl_cons, ih, inserted, List.append_assoc, List.singleton_append]
      rwa [inserted, List.append_assoc]

theorem ofList_items (t : TextSet) : ofList t.items = t := by
  have same : (ofList t.items).items = t.items := items_foldl_insert empty t.sorted
  cases t
  exact mk.injEq .. |>.mpr same

theorem ext {t u : TextSet} (same : ∀ s, s ∈ t ↔ s ∈ u) : t = u := by
  have items : t.items = u.items := eq_of_sorted (α := String) t.sorted u.sorted same
  cases t
  exact mk.injEq .. |>.mpr items

theorem mem_ofList {s : String} {ss : List String} : s ∈ ofList ss ↔ s ∈ ss := by
  have inserted (t : TextSet) : s ∈ ss.foldl insert t ↔ s ∈ t ∨ s ∈ ss := by
    induction ss generalizing t with
    | nil => simp
    | cons r ss ih =>
        rw [List.foldl_cons, ih, mem_insert, List.mem_cons, or_assoc]
        exact or_left_comm
  exact (inserted empty).trans (or_iff_right List.not_mem_nil)

end TextSet
end StreamPipelines
