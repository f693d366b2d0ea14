/-!
Sets of texts, kept in the order of their code points and without repetition, so that equal sets
are equal lists.
-/

namespace StreamPipelines

structure TextSet where
  items : List String
  sorted : items.Pairwise (· < ·)
  deriving DecidableEq

namespace TextSet

def insertItem (s : String) : List String → List String
  | [] => [s]
  | t :: ts =>
      if s < t then s :: t :: ts
      else if s = t then t :: ts
      else t :: insertItem s ts

theorem mem_insertItem {s u : String} {ts : List String} :
    u ∈ insertItem s ts ↔ u = s ∨ u ∈ ts := by
  induction ts with
  | nil => simp [insertItem]
  | cons t ts ih =>
      simp only [insertItem]
      split
      · simp
      · split
        · rename_i same
          simp [same]
        · simp only [List.mem_cons, ih]
          exact or_left_comm

theorem pairwise_insertItem (s : String) {ts : List String} (h : ts.Pairwise (· < ·)) :
    (insertItem s ts).Pairwise (· < ·) := by
  induction ts with
  | nil => simp [insertItem]
  | cons t ts ih =>
      obtain ⟨above, tail⟩ := List.pairwise_cons.1 h
      simp only [insertItem]
      split
      · rename_i before
        refine List.pairwise_cons.2 ⟨fun u hu => ?_, h⟩
        rcases List.mem_cons.1 hu with rfl | hu
        · exact before
        · exact String.lt_trans before (above u hu)
      · rename_i notBefore
        split
        · exact h
        · rename_i other
          refine List.pairwise_cons.2 ⟨fun u hu => ?_, ih tail⟩
          rcases mem_insertItem.1 hu with rfl | hu
          · rcases Std.lt_trichotomy u t with lt | eq | gt
            · exact absurd lt notBefore
            · exact absurd eq other
            · exact gt
          · exact above u hu

def empty : TextSet :=
  ⟨[], .nil⟩

instance : Inhabited TextSet :=
  ⟨empty⟩

def insert (t : TextSet) (s : String) : TextSet :=
  ⟨insertItem s t.items, pairwise_insertItem s t.sorted⟩

def ofList (ss : List String) : TextSet :=
  ss.foldl insert empty

instance : Membership String TextSet :=
  ⟨fun t s => s ∈ t.items⟩

theorem mem_insert {s u : String} {t : TextSet} : u ∈ t.insert s ↔ u = s ∨ u ∈ t :=
  mem_insertItem

end TextSet
end StreamPipelines
