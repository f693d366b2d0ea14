import StreamPipelines.Proofs.Connection.Merge

/-!
Where merging puts connections. The places of streams never change: streams that are new come
behind all others, in the order of their first mention. A connection is written to the first place
of its stream only, so that place holds what was merged last, and all others what they held before.
-/

namespace StreamPipelines

def Merge.isAppended : Merge → Bool
  | .appended _ => true
  | .replaced _ => false

namespace Connection

def streamIds (cs : List Connection) : List String :=
  cs.map (·.streamId)

@[simp] theorem streamIds_nil : streamIds [] = [] := rfl

@[simp] theorem streamIds_cons (c : Connection) (cs : List Connection) :
    streamIds (c :: cs) = c.streamId :: streamIds cs := rfl

@[simp] theorem length_streamIds (cs : List Connection) : (streamIds cs).length = cs.length :=
  List.length_map _

/-- The streams that merging adds, in the order in which they are first mentioned. -/
def newStreams (cs incoming : List Connection) : List String :=
  ((streamIds incoming).filter (· ∉ streamIds cs)).eraseDups

theorem place?_eq (streamId : String) (cs : List Connection) :
    place? streamId cs = (streamIds cs).idxOf? streamId := by
  rw [place?, streamIds, List.idxOf?, List.findIdx?_map]
  congr 1

variable {streamId : String} {cs incoming : List Connection} {c : Connection} {i : Nat}

theorem streamIds_update_of_mem (known : c.streamId ∈ streamIds cs) :
    streamIds (c.update cs) = streamIds cs := by
  induction cs with
  | nil => cases known
  | cons d ds ih =>
      by_cases found : d.streamId = c.streamId
      · simp [update, found]
      · have later : c.streamId ∈ streamIds ds :=
          (List.mem_cons.mp known).resolve_left (Ne.symm found)
        simp [update, found, ih later]

theorem update_of_notMem (unknown : c.streamId ∉ streamIds cs) : c.update cs = cs ++ [c] := by
  induction cs with
  | nil => rfl
  | cons d ds ih =>
      rw [streamIds_cons, List.mem_cons, not_or] at unknown
      rw [update, if_neg (Ne.symm unknown.1), ih unknown.2, List.cons_append]

theorem streamIds_update_of_notMem (unknown : c.streamId ∉ streamIds cs) :
    streamIds (c.update cs) = streamIds cs ++ [c.streamId] := by
  rw [update_of_notMem unknown, streamIds, List.map_append]
  rfl

/-- A connection is written to the first place of its stream. -/
theorem getElem?_update (c : Connection) (cs : List Connection) (i : Nat) :
    (c.update cs)[i]? =
      if (streamIds (c.update cs)).idxOf? c.streamId = some i then some c else cs[i]? := by
  induction cs generalizing i with
  | nil => cases i <;> simp [update, List.idxOf?_cons]
  | cons d ds ih =>
      by_cases found : d.streamId = c.streamId
      · cases i <;> simp [update, List.idxOf?_cons, found]
      · cases i with
        | zero => simp [update, List.idxOf?_cons, found]
        | succ i => simp [update, List.idxOf?_cons, found, ih]

/-- A merge tells the first place of the stream, and whether the stream was there. -/
theorem fst_merge (cs : List Connection) (c : Connection) :
    ∃ i, (streamIds (c.update cs)).idxOf? c.streamId = some i ∧
      (merge cs c).1 = if c.streamId ∈ streamIds cs then .replaced i else .appended i := by
  unfold merge
  rw [place?_eq]
  by_cases known : c.streamId ∈ streamIds cs
  · obtain ⟨i, place⟩ := Option.isSome_iff_exists.mp (List.isSome_idxOf?.mpr known)
    exact ⟨i, by rw [streamIds_update_of_mem known, place], by simp [place, known]⟩
  · have none := List.idxOf?_eq_none_iff.mpr known
    refine ⟨cs.length, ?_, by simp [none, known]⟩
    rw [streamIds_update_of_notMem known, List.idxOf?, List.findIdx?_append, ← List.idxOf?, none]
    simp

theorem length_update (cs : List Connection) (c : Connection) :
    (c.update cs).length = cs.length + if (merge cs c).1.isAppended then 1 else 0 := by
  obtain ⟨i, -, report⟩ := fst_merge cs c
  by_cases known : c.streamId ∈ streamIds cs
  · have kept := congrArg List.length (streamIds_update_of_mem known)
    simpa [report, known, Merge.isAppended] using kept
  · simp [report, known, Merge.isAppended, update_of_notMem known]

theorem newStreams_cons_of_mem (known : c.streamId ∈ streamIds cs) (incoming : List Connection) :
    newStreams cs (c :: incoming) = newStreams cs incoming := by
  simp [newStreams, known]

theorem newStreams_cons_of_notMem (unknown : c.streamId ∉ streamIds cs)
    (incoming : List Connection) :
    newStreams cs (c :: incoming) = c.streamId :: newStreams (c.update cs) incoming := by
  have others : (streamIds incoming).filter (· ∉ streamIds (c.update cs)) =
      ((streamIds incoming).filter (· ∉ streamIds cs)).filter (! · == c.streamId) := by
    rw [List.filter_filter]
    refine List.filter_congr fun streamId _ => ?_
    rw [streamIds_update_of_notMem unknown]
    by_cases same : streamId = c.streamId <;> simp [same]
  rw [newStreams, newStreams, others, ← List.eraseDups_cons, streamIds_cons,
    List.filter_cons_of_pos (by simpa using unknown)]

theorem streamIds_merged (cs incoming : List Connection) :
    streamIds (merged cs incoming) = streamIds cs ++ newStreams cs incoming := by
  induction incoming generalizing cs with
  | nil => simp [merged, newStreams]
  | cons c incoming ih =>
      rw [merged_cons, ih]
      by_cases known : c.streamId ∈ streamIds cs
      · have same : newStreams (c.update cs) incoming = newStreams cs incoming := by
          rw [newStreams, newStreams, streamIds_update_of_mem known]
        rw [streamIds_update_of_mem known, newStreams_cons_of_mem known, same]
      · rw [streamIds_update_of_notMem known, newStreams_cons_of_notMem known, List.append_assoc,
          List.singleton_append]

theorem mem_streamIds_merged :
    streamId ∈ streamIds (merged cs incoming) ↔
      streamId ∈ streamIds cs ∨ streamId ∈ streamIds incoming := by
  rw [streamIds_merged, List.mem_append, newStreams, List.mem_eraseDups, List.mem_filter]
  by_cases known : streamId ∈ streamIds cs <;> simp [known]

/-- A stream stays in its place. -/
theorem idxOf?_streamIds_merged (place : (streamIds cs).idxOf? streamId = some i)
    (incoming : List Connection) :
    (streamIds (merged cs incoming)).idxOf? streamId = some i := by
  rw [List.idxOf?] at place ⊢
  rw [streamIds_merged, List.findIdx?_append, place, Option.some_or]

theorem idxOf?_streamIds_update (c : Connection) (cs incoming : List Connection) :
    (streamIds (merged (c.update cs) incoming)).idxOf? c.streamId =
      (streamIds (c.update cs)).idxOf? c.streamId := by
  obtain ⟨i, place, -⟩ := fst_merge cs c
  rw [place, idxOf?_streamIds_merged place]

theorem getElem?_of_idxOf? {ids : List String} (place : ids.idxOf? streamId = some i) :
    ids[i]? = some streamId := by
  obtain ⟨bound, here, -⟩ := List.idxOf?_eq_some_iff.mp place
  rw [List.getElem?_eq_getElem bound, here]

theorem streamId_unique {other : String} {ids : List String} (h : ids.idxOf? streamId = some i)
    (h' : ids.idxOf? other = some i) : streamId = other :=
  Option.some_inj.mp ((getElem?_of_idxOf? h).symm.trans (getElem?_of_idxOf? h'))

/-- A place of a collection that is not the first one of its stream does not become the first one
of any stream. -/
theorem idxOf?_ne_of_later (held : cs[i]? = some c)
    (second : (streamIds cs).idxOf? c.streamId ≠ some i) (incoming : List Connection)
    (streamId : String) : (streamIds (merged cs incoming)).idxOf? streamId ≠ some i := by
  intro place
  obtain ⟨bound, -⟩ := List.getElem?_eq_some_iff.mp held
  have same : some c.streamId = some streamId := by
    rw [← getElem?_of_idxOf? place, streamIds_merged,
      List.getElem?_append_left (by simpa using bound), streamIds, List.getElem?_map, held,
      Option.map_some]
  cases same
  have known : c.streamId ∈ streamIds cs := List.mem_map_of_mem (List.mem_of_getElem? held)
  obtain ⟨j, first⟩ := Option.isSome_iff_exists.mp (List.isSome_idxOf?.mpr known)
  have stays := idxOf?_streamIds_merged first incoming
  rw [place] at stays
  exact second (stays ▸ first)

/-- The first place of a stream holds what was merged last, or else what it held before. -/
theorem getElem?_merged_first
    (place : (streamIds (merged cs incoming)).idxOf? streamId = some i) :
    (merged cs incoming)[i]? = (ofStream streamId incoming).getLast?.or cs[i]? := by
  induction incoming generalizing cs with
  | nil => rfl
  | cons c incoming ih =>
      rw [merged_cons] at place ⊢
      rw [ih place, getElem?_update, ← idxOf?_streamIds_update c cs incoming]
      by_cases same : c.streamId = streamId
      · rw [ofStream_cons_same same, List.getLast?_cons, if_pos (same ▸ place)]
        cases (ofStream streamId incoming).getLast? <;> rfl
      · rw [ofStream_cons_other same, if_neg fun written => same (streamId_unique written place)]

/-- A place that is the first one of no stream holds what it held before. -/
theorem getElem?_merged_later
    (place : ∀ streamId, (streamIds (merged cs incoming)).idxOf? streamId ≠ some i) :
    (merged cs incoming)[i]? = cs[i]? := by
  induction incoming generalizing cs with
  | nil => rfl
  | cons c incoming ih =>
      rw [merged_cons] at place ⊢
      rw [ih place, getElem?_update, ← idxOf?_streamIds_update c cs incoming, if_neg (place _)]

theorem fst_mergeAll_cons (cs : List Connection) (c : Connection) (incoming : List Connection) :
    (mergeAll cs (c :: incoming)).1 = (merge cs c).1 :: (mergeAll (c.update cs) incoming).1 := by
  rw [← snd_merge]
  rfl

theorem getElem?_mergeAll (cs incoming : List Connection) (k : Nat) :
    (mergeAll cs incoming).1[k]? =
      incoming[k]?.map fun c => (merge (merged cs (incoming.take k)) c).1 := by
  induction incoming generalizing cs k with
  | nil => rfl
  | cons c incoming ih =>
      cases k with
      | zero => rfl
      | succ k =>
          rw [fst_mergeAll_cons, List.getElem?_cons_succ, ih, List.getElem?_cons_succ,
            List.take_succ_cons, merged_cons]

theorem length_mergeAll (cs incoming : List Connection) :
    (mergeAll cs incoming).1.length = incoming.length := by
  induction incoming generalizing cs with
  | nil => rfl
  | cons c incoming ih => rw [fst_mergeAll_cons, List.length_cons, ih, List.length_cons]

theorem length_merged (cs incoming : List Connection) :
    (merged cs incoming).length =
      cs.length + (mergeAll cs incoming).1.countP Merge.isAppended := by
  induction incoming generalizing cs with
  | nil => rfl
  | cons c incoming ih =>
      rw [merged_cons, ih, length_update, fst_mergeAll_cons, List.countP_cons]
      omega

/-- The report on a connection of the batch tells a place that is still that of the stream when
the whole batch is merged. -/
theorem report_of_getElem? {k : Nat} (h : incoming[k]? = some c) :
    ∃ i, (streamIds (merged cs incoming)).idxOf? c.streamId = some i ∧
      (mergeAll cs incoming).1[k]? =
        some (if c.streamId ∈ streamIds cs ∨ c.streamId ∈ streamIds (incoming.take k)
          then .replaced i else .appended i) := by
  obtain ⟨i, place, report⟩ := fst_merge (merged cs (incoming.take k)) c
  have split : incoming = incoming.take k ++ c :: incoming.drop (k + 1) := by
    obtain ⟨bound, rfl⟩ := List.getElem?_eq_some_iff.mp h
    rw [← List.drop_eq_getElem_cons bound, List.take_append_drop]
  refine ⟨i, ?_, ?_⟩
  · rw [split, merged_append, merged_cons]
    exact idxOf?_streamIds_merged place _
  · rw [getElem?_mergeAll, h, Option.map_some, report]
    simp only [mem_streamIds_merged]

/-- The collection `after` and the reports are what a batch makes of the collection `cs`. -/
structure OrderedUpdate (cs incoming : List Connection) (reports : List Merge)
    (after : List Connection) : Prop where
  streams : streamIds after = streamIds cs ++ newStreams cs incoming
  first : ∀ streamId i, (streamIds after).idxOf? streamId = some i →
    after[i]? = (ofStream streamId incoming).getLast?.or cs[i]?
  later : ∀ i d, cs[i]? = some d → (streamIds cs).idxOf? d.streamId ≠ some i →
    after[i]? = some d
  reported : reports.length = incoming.length ∧ ∀ k c, incoming[k]? = some c →
    ∃ i, (streamIds after).idxOf? c.streamId = some i ∧
      reports[k]? = some (if c.streamId ∈ streamIds cs ∨ c.streamId ∈ streamIds (incoming.take k)
        then .replaced i else .appended i)
  growth : after.length = cs.length + reports.countP Merge.isAppended

theorem orderedUpdate_mergeAll (cs incoming : List Connection) :
    OrderedUpdate cs incoming (mergeAll cs incoming).1 (mergeAll cs incoming).2 := by
  rw [snd_mergeAll_eq_merged]
  refine ⟨streamIds_merged cs incoming, fun _ _ place => getElem?_merged_first place, ?_,
    ⟨length_mergeAll cs incoming, fun _ _ h => report_of_getElem? h⟩, length_merged cs incoming⟩
  intro i d held second
  rw [getElem?_merged_later (idxOf?_ne_of_later held second incoming), held]

end Connection
end StreamPipelines
