import StreamPipelines.Connection.Merge

/-!
What merging does to the connections of one stream: a connection of that stream takes the place
of the first one, or becomes the only one; connections of other streams do not touch them.
-/

namespace StreamPipelines
namespace Connection

def ofStream (streamId : String) (cs : List Connection) : List Connection :=
  cs.filter (·.streamId = streamId)

/-- The collection after merging the connections one by one. -/
def merged (cs incoming : List Connection) : List Connection :=
  incoming.foldl (fun cs c => (merge cs c).2) cs

variable {streamId : String} {c : Connection}

theorem merged_nil (cs : List Connection) : merged cs [] = cs := rfl

theorem merged_cons (cs : List Connection) (c : Connection) (incoming : List Connection) :
    merged cs (c :: incoming) = merged (c.update cs) incoming := by
  rw [← snd_merge]
  rfl

theorem merged_append (cs xs ys : List Connection) :
    merged cs (xs ++ ys) = merged (merged cs xs) ys :=
  List.foldl_append

theorem snd_mergeAll_eq_merged (cs incoming : List Connection) :
    (mergeAll cs incoming).2 = merged cs incoming := by
  simp only [merged, snd_mergeAll, snd_merge]

theorem ofStream_cons_same (same : c.streamId = streamId) (cs : List Connection) :
    ofStream streamId (c :: cs) = c :: ofStream streamId cs :=
  List.filter_cons_of_pos (by simpa using same)

theorem ofStream_cons_other (other : c.streamId ≠ streamId) (cs : List Connection) :
    ofStream streamId (c :: cs) = ofStream streamId cs :=
  List.filter_cons_of_neg (by simpa using other)

theorem ofStream_update_other (other : c.streamId ≠ streamId) (cs : List Connection) :
    ofStream streamId (c.update cs) = ofStream streamId cs := by
  induction cs with
  | nil => exact ofStream_cons_other other []
  | cons d ds ih =>
      simp only [update]
      split
      · rename_i found
        rw [ofStream_cons_other other, ofStream_cons_other (found ▸ other)]
      · by_cases same : d.streamId = streamId
        · rw [ofStream_cons_same same, ofStream_cons_same same, ih]
        · rw [ofStream_cons_other same, ofStream_cons_other same, ih]

theorem ofStream_update_same (same : c.streamId = streamId) (cs : List Connection) :
    ofStream streamId (c.update cs) = c :: (ofStream streamId cs).tail := by
  induction cs with
  | nil => exact ofStream_cons_same same []
  | cons d ds ih =>
      simp only [update]
      split
      · rename_i found
        rw [ofStream_cons_same same, ofStream_cons_same (found.trans same), List.tail_cons]
      · rename_i notFound
        have other : d.streamId ≠ streamId := fun found => notFound (found.trans same.symm)
        rw [ofStream_cons_other other, ofStream_cons_other other, ih]

theorem ofStream_merged_other {incoming : List Connection}
    (other : ∀ c ∈ incoming, c.streamId ≠ streamId) (cs : List Connection) :
    ofStream streamId (merged cs incoming) = ofStream streamId cs := by
  induction incoming generalizing cs with
  | nil => rfl
  | cons c incoming ih =>
      obtain ⟨first, rest⟩ := List.forall_mem_cons.mp other
      rw [merged_cons, ih rest, ofStream_update_other first]

theorem tail_ofStream_update (streamId : String) (c : Connection) (cs : List Connection) :
    (ofStream streamId (c.update cs)).tail = (ofStream streamId cs).tail := by
  by_cases same : c.streamId = streamId
  · rw [ofStream_update_same same, List.tail_cons]
  · rw [ofStream_update_other same]

/-- Merging changes no connection of a stream but the first one. -/
theorem tail_ofStream_merged (streamId : String) (cs incoming : List Connection) :
    (ofStream streamId (merged cs incoming)).tail = (ofStream streamId cs).tail := by
  induction incoming generalizing cs with
  | nil => rfl
  | cons c incoming ih => rw [merged_cons, ih, tail_ofStream_update]

/-- Of the connections that are merged, the last one of a stream becomes its first one. -/
theorem head?_ofStream_merged (streamId : String) (cs incoming : List Connection) :
    (ofStream streamId (merged cs incoming)).head? =
      (ofStream streamId incoming).getLast?.or (ofStream streamId cs).head? := by
  induction incoming generalizing cs with
  | nil => rfl
  | cons c incoming ih =>
      rw [merged_cons, ih]
      by_cases same : c.streamId = streamId
      · rw [ofStream_update_same same, ofStream_cons_same same, List.getLast?_cons]
        cases (ofStream streamId incoming).getLast? <;> rfl
      · rw [ofStream_update_other same, ofStream_cons_other same]

theorem count_streamId (streamId : String) (cs : List Connection) :
    (cs.map (·.streamId)).count streamId = (ofStream streamId cs).length := by
  rw [List.count_eq_countP, List.countP_map, List.countP_eq_length_filter]
  rfl

end Connection
end StreamPipelines
