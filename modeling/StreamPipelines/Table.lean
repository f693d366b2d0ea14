/-!
Tables from names to values. The entries are kept in the order of their names, which is the
order of their code points, so two tables with the same look-ups are the same table. Writing a
name that is present replaces its value: of several writes the last one stays.
-/

namespace StreamPipelines

structure Table (α : Type) where
  entries : List (String × α)
  sorted : entries.Pairwise (fun a b => a.1 < b.1)
  deriving DecidableEq

namespace Table

variable {α β : Type}

def insertEntry (name : String) (value : α) : List (String × α) → List (String × α)
  | [] => [(name, value)]
  | e :: es =>
      if name < e.1 then (name, value) :: e :: es
      else if name = e.1 then (name, value) :: es
      else e :: insertEntry name value es

theorem fst_mem_of_mem_insertEntry {name : String} {value : α} {es : List (String × α)}
    {e : String × α} (h : e ∈ insertEntry name value es) : e.1 = name ∨ e ∈ es := by
  induction es with
  | nil =>
      simp only [insertEntry, List.mem_singleton] at h
      exact .inl (by rw [h])
  | cons d es ih =>
      simp only [insertEntry] at h
      split at h
      · rcases List.mem_cons.1 h with rfl | h
        · exact .inl rfl
        · exact .inr h
      · split at h
        · rcases List.mem_cons.1 h with rfl | h
          · exact .inl rfl
          · exact .inr (List.mem_cons_of_mem _ h)
        · rcases List.mem_cons.1 h with rfl | h
          · exact .inr List.mem_cons_self
          · exact (ih h).imp_right (List.mem_cons_of_mem _)

theorem pairwise_insertEntry (name : String) (value : α) {es : List (String × α)}
    (h : es.Pairwise (fun a b => a.1 < b.1)) :
    (insertEntry name value es).Pairwise (fun a b => a.1 < b.1) := by
  induction es with
  | nil => simp [insertEntry]
  | cons e es ih =>
      obtain ⟨above, tail⟩ := List.pairwise_cons.1 h
      simp only [insertEntry]
      split
      · rename_i before
        refine List.pairwise_cons.2 ⟨fun d hd => ?_, h⟩
        rcases List.mem_cons.1 hd with rfl | hd
        · exact before
        · exact String.lt_trans before (above d hd)
      · rename_i notBefore
        split
        · rename_i same
          exact List.pairwise_cons.2 ⟨fun d hd => same ▸ above d hd, tail⟩
        · rename_i other
          refine List.pairwise_cons.2 ⟨fun d hd => ?_, ih tail⟩
          rcases fst_mem_of_mem_insertEntry hd with rfl | hd
          · rcases Std.lt_trichotomy d.1 e.1 with lt | eq | gt
            · exact absurd lt notBefore
            · exact absurd eq other
            · exact gt
          · exact above d hd

def empty : Table α :=
  ⟨[], .nil⟩

instance : Inhabited (Table α) :=
  ⟨empty⟩

def insert (t : Table α) (name : String) (value : α) : Table α :=
  ⟨insertEntry name value t.entries, pairwise_insertEntry name value t.sorted⟩

/-- Writes the entries in order, so that the last value of a name stays. -/
def ofList (es : List (String × α)) : Table α :=
  es.foldl (fun t e => t.insert e.1 e.2) empty

/-- The value of the first entry with this name. -/
def lookupEntry (name : String) : List (String × α) → Option α
  | [] => none
  | e :: es => if name = e.1 then some e.2 else lookupEntry name es

def get? (t : Table α) (name : String) : Option α :=
  lookupEntry name t.entries

def names (t : Table α) : List String :=
  t.entries.map (·.1)

def isEmpty (t : Table α) : Bool :=
  t.entries.isEmpty

/-- The entries whose name is of the class `p`. -/
def filterNames (p : String → Bool) (t : Table α) : Table α :=
  ⟨t.entries.filter fun e => p e.1, t.sorted.filter _⟩

def mapValues (f : α → β) (t : Table α) : Table β :=
  ⟨t.entries.map fun e => (e.1, f e.2), t.sorted.map _ fun _ _ h => h⟩

theorem lookupEntry_insertEntry (name other : String) (value : α) (es : List (String × α)) :
    lookupEntry other (insertEntry name value es) =
      if other = name then some value else lookupEntry other es := by
  induction es with
  | nil => rfl
  | cons e es ih =>
      simp only [insertEntry]
      split
      · rfl
      · split
        · rename_i same
          subst same
          simp only [lookupEntry]
          split <;> rfl
        · rename_i notSame
          simp only [lookupEntry, ih]
          by_cases h : other = e.1
          · subst h
            rw [if_pos rfl, if_neg (Ne.symm notSame), if_pos rfl]
          · rw [if_neg h, if_neg h]

theorem get?_insert (t : Table α) (name other : String) (value : α) :
    (t.insert name value).get? other = if other = name then some value else t.get? other :=
  lookupEntry_insertEntry name other value t.entries

@[simp] theorem get?_empty (name : String) : (empty : Table α).get? name = none := rfl

end Table
end StreamPipelines
