import StreamPipelines.Proofs.Connection.Placement
import StreamPipelines.Proofs.Connection.Removal

/-!
When the order of merging shows. A batch that is merged a second time changes nothing. Of two
batches that share no stream, either may be merged first: the connections that were there come out
the same, and behind them each batch has put what it adds; only which of the two additions comes
first is a matter of the order. So it is with the replies to two assignments.
-/

namespace StreamPipelines
namespace Connection

/-- The batches share no stream. -/
def Independent (first second : List Connection) : Prop :=
  ∀ c ∈ first, ∀ d ∈ second, c.streamId ≠ d.streamId

/-- The batch names only streams of the collection. -/
def Known (cs incoming : List Connection) : Prop :=
  ∀ c ∈ incoming, c.streamId ∈ streamIds cs

instance (first second : List Connection) : Decidable (Independent first second) :=
  inferInstanceAs (Decidable (∀ c ∈ first, ∀ d ∈ second, c.streamId ≠ d.streamId))

instance (cs incoming : List Connection) : Decidable (Known cs incoming) :=
  inferInstanceAs (Decidable (∀ c ∈ incoming, c.streamId ∈ streamIds cs))

/-- What a batch brings for the streams of a collection. -/
def updates (cs incoming : List Connection) : List Connection :=
  incoming.filter (·.streamId ∈ streamIds cs)

/-- What a batch adds behind the connections of a collection. -/
def additions (cs incoming : List Connection) : List Connection :=
  merged [] (incoming.filter (·.streamId ∉ streamIds cs))

variable {cs incoming first second : List Connection} {c d : Connection}

theorem Independent.symm (h : Independent first second) : Independent second first :=
  fun d hd c hc => (h c hc d hd).symm

theorem newStreams_of_known (known : Known cs incoming) : newStreams cs incoming = [] := by
  have none : (streamIds incoming).filter (· ∉ streamIds cs) = [] := by
    rw [List.filter_eq_nil_iff]
    intro streamId mem
    obtain ⟨c, named, rfl⟩ := List.mem_map.mp mem
    simp [known c named]
  rw [newStreams, none]
  rfl

theorem streamIds_merged_of_known (known : Known cs incoming) :
    streamIds (merged cs incoming) = streamIds cs := by
  rw [streamIds_merged, newStreams_of_known known, List.append_nil]

theorem length_merged_of_known (known : Known cs incoming) :
    (merged cs incoming).length = cs.length := by
  simpa using congrArg List.length (streamIds_merged_of_known known)

theorem Known.merged (known : Known cs incoming) (others : List Connection) :
    Known (merged cs others) incoming :=
  fun c named => mem_streamIds_merged.mpr (.inl (known c named))

theorem known_merged (cs incoming : List Connection) : Known (merged cs incoming) incoming :=
  fun _ named => mem_streamIds_merged.mpr (.inr (List.mem_map_of_mem named))

theorem merged_twice (cs incoming : List Connection) :
    merged (merged cs incoming) incoming = merged cs incoming := by
  have places := streamIds_merged_of_known (known_merged cs incoming)
  refine List.ext_getElem? fun i => ?_
  by_cases place : ∃ streamId, (streamIds (merged cs incoming)).idxOf? streamId = some i
  · obtain ⟨streamId, place⟩ := place
    have again := getElem?_merged_first (places ▸ place)
    rw [getElem?_merged_first place] at again
    rw [again, getElem?_merged_first place]
    cases (ofStream streamId incoming).getLast? <;> rfl
  · refine getElem?_merged_later fun streamId found => place ⟨streamId, ?_⟩
    rw [← places, found]

theorem update_append_of_mem {xs : List Connection} (known : c.streamId ∈ streamIds xs)
    (ys : List Connection) : c.update (xs ++ ys) = c.update xs ++ ys := by
  induction xs with
  | nil => cases known
  | cons x xs ih =>
      by_cases found : x.streamId = c.streamId
      · simp [update, found]
      · have later : c.streamId ∈ streamIds xs :=
          (List.mem_cons.mp known).resolve_left (Ne.symm found)
        simp [update, found, ih later]

theorem update_append_of_notMem {xs : List Connection} (unknown : c.streamId ∉ streamIds xs)
    (ys : List Connection) : c.update (xs ++ ys) = xs ++ c.update ys := by
  induction xs with
  | nil => rfl
  | cons x xs ih =>
      rw [streamIds_cons, List.mem_cons, not_or] at unknown
      rw [List.cons_append, update, if_neg (Ne.symm unknown.1), ih unknown.2, List.cons_append]

/-- A batch is parted by what the front names: the rest of the collection gets the others. -/
theorem merged_append_left (xs ys incoming : List Connection) :
    merged (xs ++ ys) incoming =
      merged xs (incoming.filter (·.streamId ∈ streamIds xs)) ++
        merged ys (incoming.filter (·.streamId ∉ streamIds xs)) := by
  induction incoming generalizing xs ys with
  | nil => rfl
  | cons c incoming ih =>
      rw [merged_cons]
      by_cases known : c.streamId ∈ streamIds xs
      · rw [update_append_of_mem known, ih, streamIds_update_of_mem known,
          List.filter_cons_of_pos (by simpa using known), merged_cons,
          List.filter_cons_of_neg (by simpa using known)]
      · rw [update_append_of_notMem known, ih, List.filter_cons_of_neg (by simpa using known),
          List.filter_cons_of_pos (by simpa using known), merged_cons]

theorem merged_eq_append (cs incoming : List Connection) :
    merged cs incoming =
      merged cs (updates cs incoming) ++ additions cs incoming := by
  have parted := merged_append_left cs [] incoming
  rwa [List.append_nil] at parted

theorem mem_streamIds_additions {streamId : String} :
    streamId ∈ streamIds (additions cs incoming) ↔
      streamId ∈ streamIds incoming ∧ streamId ∉ streamIds cs := by
  rw [additions, mem_streamIds_merged]
  simp only [streamIds, List.map_nil, List.not_mem_nil, false_or, List.mem_map, List.mem_filter,
    decide_eq_true_eq]
  constructor
  · rintro ⟨c, ⟨named, unknown⟩, rfl⟩
    exact ⟨⟨c, named, rfl⟩, unknown⟩
  · rintro ⟨⟨c, named, rfl⟩, unknown⟩
    exact ⟨c, ⟨named, unknown⟩, rfl⟩

theorem additions_eq_nil_iff : additions cs incoming = [] ↔ Known cs incoming := by
  constructor
  · intro none c named
    refine Decidable.byContradiction fun unknown => ?_
    have added : c.streamId ∈ streamIds (additions cs incoming) :=
      mem_streamIds_additions.mpr ⟨List.mem_map_of_mem named, unknown⟩
    rw [none] at added
    cases added
  · intro known
    have none : incoming.filter (·.streamId ∉ streamIds cs) = [] := by
      rw [List.filter_eq_nil_iff]
      intro c named
      simp [known c named]
    rw [additions, none]
    rfl

/-- A batch of new streams only goes behind the collection. -/
theorem merged_of_unknown (unknown : ∀ c ∈ incoming, c.streamId ∉ streamIds cs) :
    merged cs incoming = cs ++ merged [] incoming := by
  have none : updates cs incoming = [] := by
    rw [updates, List.filter_eq_nil_iff]
    intro c named
    simp [unknown c named]
  have all : incoming.filter (·.streamId ∉ streamIds cs) = incoming := by
    rw [List.filter_eq_self]
    intro c named
    simp [unknown c named]
  rw [merged_eq_append, additions, none, all, merged_nil]

theorem known_updates (cs incoming : List Connection) : Known cs (updates cs incoming) := by
  intro c named
  simpa using (List.mem_filter.mp named).2

theorem update_comm (other : c.streamId ≠ d.streamId) (known : c.streamId ∈ streamIds cs) :
    d.update (c.update cs) = c.update (d.update cs) := by
  induction cs with
  | nil => cases known
  | cons e es ih =>
      by_cases ofC : e.streamId = c.streamId
      · simp [update, ofC, other]
      · by_cases ofD : e.streamId = d.streamId
        · simp [update, ofD, other.symm]
        · have later : c.streamId ∈ streamIds es :=
            (List.mem_cons.mp known).resolve_left (Ne.symm ofC)
          simp [update, ofC, ofD, ih later]

theorem merged_update (others : ∀ d ∈ incoming, c.streamId ≠ d.streamId)
    (known : c.streamId ∈ streamIds cs) :
    merged (c.update cs) incoming = c.update (merged cs incoming) := by
  induction incoming generalizing cs with
  | nil => rfl
  | cons d incoming ih =>
      obtain ⟨first, rest⟩ := List.forall_mem_cons.mp others
      have still : c.streamId ∈ streamIds (merged cs [d]) :=
        mem_streamIds_merged.mpr (.inl known)
      rw [merged_cons, merged_nil] at still
      rw [merged_cons, merged_cons, update_comm first known, ih rest still]

/-- A batch that names streams of the collection only can as well be merged later. -/
theorem merged_comm (known : Known cs first) (h : Independent first second) :
    merged (merged cs first) second = merged (merged cs second) first := by
  induction first generalizing cs with
  | nil => rfl
  | cons c first ih =>
      obtain ⟨mine, others⟩ := List.forall_mem_cons.mp known
      obtain ⟨apart, rest⟩ := List.forall_mem_cons.mp h
      have still : Known (c.update cs) first := by
        rw [Known, streamIds_update_of_mem mine]
        exact others
      rw [merged_cons, merged_cons, ih still rest, merged_update apart mine]

/-- Two batches, one after the other: what was there, and what each has added. -/
theorem merged_merged (h : Independent first second) (cs : List Connection) :
    merged (merged cs first) second =
      merged (merged cs (updates cs first)) (updates cs second) ++
        (additions cs first ++ additions cs second) := by
  have apart : ∀ d ∈ second.filter (·.streamId ∉ streamIds cs),
      d.streamId ∉ streamIds (additions cs first) := by
    intro d hd added
    obtain ⟨c, hc, same⟩ := List.mem_map.mp (mem_streamIds_additions.mp added).1
    exact h c hc d (List.mem_filter.mp hd).1 same
  rw [merged_eq_append cs first, merged_append_left,
    streamIds_merged_of_known (known_updates cs first), merged_of_unknown apart]
  rfl

/-- What was there comes out the same in both orders. -/
theorem merged_updates_comm (h : Independent first second) (cs : List Connection) :
    merged (merged cs (updates cs first)) (updates cs second) =
      merged (merged cs (updates cs second)) (updates cs first) :=
  merged_comm (known_updates cs first) fun c hc d hd =>
    h c (List.mem_filter.mp hc).1 d (List.mem_filter.mp hd).1

theorem find?_merged_comm (h : Independent first second) (cs : List Connection)
    (streamId : String) :
    (merged (merged cs first) second).find? (·.streamId = streamId) =
      (merged (merged cs second) first).find? (·.streamId = streamId) := by
  have head (cs incoming : List Connection) := head?_ofStream_merged streamId cs incoming
  simp only [ofStream, List.head?_filter] at head
  simp only [head]
  cases inFirst : (first.filter (·.streamId = streamId)).getLast? with
  | none => simp
  | some c =>
      cases inSecond : (second.filter (·.streamId = streamId)).getLast? with
      | none => simp
      | some d =>
          obtain ⟨hc, ofC⟩ := List.mem_filter.mp (List.mem_of_getLast? inFirst)
          obtain ⟨hd, ofD⟩ := List.mem_filter.mp (List.mem_of_getLast? inSecond)
          simp only [decide_eq_true_eq] at ofC ofD
          exact absurd (ofC.trans ofD.symm) (h c hc d hd)

/-- Additions of both batches can be told apart by which come first. -/
theorem additions_append_comm_iff (h : Independent first second) :
    additions cs first ++ additions cs second = additions cs second ++ additions cs first ↔
      Known cs first ∨ Known cs second := by
  rw [← additions_eq_nil_iff, ← additions_eq_nil_iff]
  constructor
  · intro same
    cases ofFirst : additions cs first with
    | nil => exact .inl rfl
    | cons a as =>
        cases ofSecond : additions cs second with
        | nil => exact .inr rfl
        | cons b bs =>
            rw [ofFirst, ofSecond] at same
            obtain ⟨rfl, -⟩ := List.cons.inj same
            have inFirst : a.streamId ∈ streamIds (additions cs first) := by simp [ofFirst]
            have inSecond : a.streamId ∈ streamIds (additions cs second) := by simp [ofSecond]
            obtain ⟨c, hc, ofC⟩ := List.mem_map.mp (mem_streamIds_additions.mp inFirst).1
            obtain ⟨d, hd, ofD⟩ := List.mem_map.mp (mem_streamIds_additions.mp inSecond).1
            exact absurd (ofC.trans ofD.symm) (h c hc d hd)
  · rintro (none | none) <;> simp [none]

end Connection

namespace Store

/-- The caller and the user are told the same. -/
def Completion.SameReport (c d : Completion) : Prop :=
  c.result = d.result ∧ c.notices = d.notices

/-- Two calls are completed in one order and in the other. Each of them reports the same, and the
stores differ only in the connections that come out, `after` or `swapped`, and in what was published
in between. -/
structure Exchange (s : Store) (p q : Pending) (reply reply' : Reply)
    (after swapped : List Connection) : Prop where
  first : (s.complete p reply).SameReport ((s.complete q reply').store.complete p reply)
  second : ((s.complete p reply).store.complete q reply').SameReport (s.complete q reply')
  inOrder : ∃ between, ((s.complete p reply).store.complete q reply').store =
    ⟨some after, s.lists, (s.published.publish between).publish after⟩
  reversed : ∃ between, ((s.complete q reply').store.complete p reply).store =
    ⟨some swapped, s.lists, (s.published.publish between).publish swapped⟩

variable {p q : Pending} {reply reply' : Reply} {first second : List Connection}

theorem store_complete_of_update (h : p.success? reply = some (.update first)) (s : Store) :
    (s.complete p reply).store = s.applyUpdate first := by
  obtain ⟨_, _, _, failed, -⟩ | ⟨x, answer, succeeded, completed⟩ := s.complete_cases p reply
  · rw [failed] at h
    cases h
  · rw [succeeded] at h
    cases h
    rw [completed, take]

theorem exchange_of_updates (hp : p.success? reply = some (.update first))
    (hq : q.success? reply' = some (.update second)) (s : Store) :
    s.Exchange p q reply reply'
      (Connection.mergeAll (Connection.mergeAll (s.connections.getD []) first).2 second).2
      (Connection.mergeAll (Connection.mergeAll (s.connections.getD []) second).2 first).2 := by
  refine ⟨report_complete rfl _ _ reply, report_complete rfl _ _ reply', ?_, ?_⟩
  · rw [store_complete_of_update hq, store_complete_of_update hp]
    exact ⟨_, rfl⟩
  · rw [store_complete_of_update hp, store_complete_of_update hq]
    exact ⟨_, rfl⟩

end Store

namespace Connection

/-- Merging a batch again changes nothing. Independent batches may be merged in either order: the
first connection of each stream and the number of connections are the same, and the collections
are the same but for the order of the two additions, so they are equal exactly if one of the
batches adds nothing. A store that gets the batches as the answers to two calls shows the order of
the answers nowhere else. -/
theorem mergeAll_independent (cs : List Connection) :
    (∀ incoming, (mergeAll (mergeAll cs incoming).2 incoming).2 = (mergeAll cs incoming).2) ∧
    ∀ first second, Independent first second →
      let after := (mergeAll (mergeAll cs first).2 second).2
      let swapped := (mergeAll (mergeAll cs second).2 first).2
      (∀ streamId, after.find? (·.streamId = streamId) = swapped.find? (·.streamId = streamId)) ∧
      after.length = swapped.length ∧
      (after = swapped ↔ Known cs first ∨ Known cs second) ∧
      (∃ known, known.length = cs.length ∧
        after = known ++ (additions cs first ++ additions cs second) ∧
        swapped = known ++ (additions cs second ++ additions cs first)) ∧
      ∀ (s : Store) (p q : Store.Pending) (reply reply' : Reply), s.connections.getD [] = cs →
        p.success? reply = some (.update first) → q.success? reply' = some (.update second) →
        s.Exchange p q reply reply' after swapped := by
  refine ⟨fun incoming => ?_, fun first second h => ?_⟩
  · simp only [snd_mergeAll_eq_merged]
    exact merged_twice cs incoming
  · intro after swapped
    have answered (s : Store) (p q : Store.Pending) (reply reply' : Reply)
        (held : s.connections.getD [] = cs) (hp : p.success? reply = some (.update first))
        (hq : q.success? reply' = some (.update second)) :
        s.Exchange p q reply reply' after swapped := by
      cases held
      exact Store.exchange_of_updates hp hq s
    have inOrder : after = merged (merged cs first) second := by
      simp only [after, snd_mergeAll_eq_merged]
    have reversed : swapped = merged (merged cs second) first := by
      simp only [swapped, snd_mergeAll_eq_merged]
    have parts := merged_merged h cs
    have others := merged_merged h.symm cs
    rw [← merged_updates_comm h cs] at others
    refine ⟨?_, ?_, ?_, ⟨_, ?_, inOrder.trans parts, reversed.trans others⟩, answered⟩
    · rw [inOrder, reversed]
      exact find?_merged_comm h cs
    · rw [inOrder, reversed, parts, others]
      simp only [List.length_append]
      omega
    · rw [inOrder, reversed, parts, others, List.append_cancel_left_eq,
        additions_append_comm_iff h]
    · exact (length_merged_of_known ((known_updates cs second).merged _)).trans
        (length_merged_of_known (known_updates cs first))

/-- Both batches add a connection, and the second one names a stream of the collection twice. -/
theorem mergeAll_independent_both_adding :
    let connection (id streamId : String) : Connection := ⟨some id, streamId, .empty⟩
    let json (id streamId : String) : Json := .obj [("id", .str id), ("stream_id", .str streamId)]
    let cs := [connection "1" "A", connection "2" "B", connection "3" "A"]
    let first := [connection "4" "C", connection "5" "A"]
    let second := [connection "6" "B", connection "7" "D", connection "8" "B"]
    let after := (mergeAll (mergeAll cs first).2 second).2
    let swapped := (mergeAll (mergeAll cs second).2 first).2
    let s : Store := ⟨some cs, .new, .new⟩
    let reply : Reply := .ok (.arr [json "4" "C", json "5" "A"])
    let reply' : Reply := .ok (.arr [json "6" "B", json "7" "D", json "8" "B"])
    Independent first second ∧ after ≠ swapped ∧ after.length = swapped.length ∧
      after.find? (·.streamId = "B") = swapped.find? (·.streamId = "B") ∧
      (mergeAll (mergeAll cs first).2 first).2 = (mergeAll cs first).2 ∧
      s.Exchange (.assignPipeline ⟨"p", ["C", "A"]⟩) (.assignPipeline ⟨"q", ["B", "D"]⟩)
        reply reply' after swapped := by
  intro connection json cs first second after swapped s reply reply'
  have h : Independent first second := by decide
  obtain ⟨twice, swap⟩ := mergeAll_independent cs
  obtain ⟨heads, length, same, -, answered⟩ := swap first second h
  have shows : after ≠ swapped := fun equal => absurd (same.mp equal) (by decide)
  exact ⟨h, shows, length, heads "B", twice first, answered s _ _ reply reply' rfl rfl rfl⟩

end Connection
end StreamPipelines
