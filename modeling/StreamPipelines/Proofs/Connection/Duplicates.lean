import StreamPipelines.Proofs.Connection.Retention

/-!
Several connections of one stream. The service promises one at most, but a list is applied as it
comes; an update then changes the first connection of the stream only. So all connections after
the first one are those of the list that was applied last, whatever has been completed since. The
main statements bound the number of connections of a stream by this, and tell what an update
leaves of them.
-/

namespace StreamPipelines
namespace Store

/-- What a list brought that was applied. -/
def Ended.applied? (e : Ended) : Option (List Connection) :=
  match e.success? with
  | some (.list token cs) => if (e.store.lists.tryCommit token).1 then some cs else none
  | some (.update _) | none => none

theorem Ended.applied?_list {e : Ended} {t : Token} {cs : List Connection}
    (h : e.success? = some (.list t cs)) :
    e.applied? = if e.store.lists.committed < t.value then some cs else none := by
  simp only [applied?, h, Sequencer.tryCommit]
  by_cases newer : e.store.lists.committed < t.value <;> simp [newer]

namespace Run

def applied (r : Run) : List (List Connection) :=
  r.ended.filterMap Ended.applied?

/-- The list that was applied last. -/
def base (r : Run) : List Connection :=
  r.applied.getLast?.getD []

theorem applied_endCall (r : Run) (c : Begun) (reply : Reply) :
    (r.endCall c reply).applied =
      r.applied ++ (Ended.applied? ⟨c, reply, r.store⟩).toList := by
  simp only [applied, endCall, List.filterMap_append]
  rfl

/-- A completion leaves everything as it is, applies a list or makes an update. -/
theorem endCall_changes (r : Run) (c : Begun) (reply : Reply) :
    ((r.endCall c reply).store = r.store ∧ (r.endCall c reply).applied = r.applied) ∨
    (∃ cs, (r.endCall c reply).store.connections = some cs ∧
      (r.endCall c reply).store.published = r.store.published.publish cs ∧
      (r.endCall c reply).applied = r.applied ++ [cs]) ∨
    ∃ cs, c.pending.success? reply = some (.update cs) ∧
      (r.endCall c reply).store = r.store.applyUpdate cs ∧
      (r.endCall c reply).applied = r.applied := by
  rw [applied_endCall]
  have brings : Ended.success? ⟨c, reply, r.store⟩ = c.pending.success? reply := rfl
  obtain ⟨failed, store, -⟩ | ⟨x, brought, store, -⟩ := r.endCall_cases c reply
  · rw [Ended.applied?, brings, failed]
    exact .inl ⟨store, List.append_nil _⟩
  · rw [store]
    cases x with
    | update cs =>
        rw [Ended.applied?, brings, brought]
        exact .inr (.inr ⟨cs, rfl, rfl, List.append_nil _⟩)
    | list t cs =>
        rw [Ended.applied?_list (brings.trans brought), take_list]
        by_cases newer : r.store.lists.committed < t.value
        · rw [if_pos newer, if_pos newer]
          exact .inr (.inl ⟨cs, rfl, rfl, rfl⟩)
        · rw [if_neg newer, if_neg newer]
          exact .inl ⟨rfl, List.append_nil _⟩

end Run

/-- Of every stream, the two have the same connections after the first one. -/
def SameRests (cs base : List Connection) : Prop :=
  ∀ streamId, (Connection.ofStream streamId cs).tail = (Connection.ofStream streamId base).tail

theorem SameRests.merged {cs base : List Connection} (h : SameRests cs base)
    (incoming : List Connection) : SameRests (Connection.merged cs incoming) base :=
  fun streamId => (Connection.tail_ofStream_merged streamId cs incoming).trans (h streamId)

theorem SameRests.length_le {cs base : List Connection} (h : SameRests cs base)
    (streamId : String) :
    (Connection.ofStream streamId cs).length ≤
      max 1 (Connection.ofStream streamId base).length := by
  have same := congrArg List.length (h streamId)
  rw [List.length_tail, List.length_tail] at same
  omega

theorem SameRests.nodup {cs base : List Connection} (h : SameRests cs base)
    (distinct : (base.map (·.streamId)).Nodup) : (cs.map (·.streamId)).Nodup := by
  rw [List.nodup_iff_count] at distinct ⊢
  intro streamId
  have one := distinct streamId
  have bound := h.length_le streamId
  rw [Connection.count_streamId] at one ⊢
  omega

/-- What is known has the rests of the list that was applied last, and what was published those of
some list that was applied before. -/
structure Rests (r : Run) : Prop where
  known : SameRests (r.store.connections.getD []) r.base
  published : ∀ cs ∈ r.store.published.history,
    ∃ base, (base = [] ∨ base ∈ r.applied) ∧ SameRests cs base

theorem rests_new : Rests .new :=
  ⟨fun _ => rfl, nofun⟩

theorem Run.base_mem (r : Run) : r.base = [] ∨ r.base ∈ r.applied := by
  unfold base
  cases last : r.applied.getLast? with
  | none => exact .inl rfl
  | some cs => exact .inr (List.mem_of_getLast? last)

theorem Rests.beginCall {r : Run} (h : Rests r) (name : String) (a : Action) :
    Rests (r.beginCall name a) := by
  refine ⟨?_, ?_⟩
  · rw [Run.connections_beginCall]
    exact h.known
  · rw [Run.published_beginCall]
    exact h.published

theorem Rests.endCall {r : Run} (h : Rests r) (c : Begun) (reply : Reply) :
    Rests (r.endCall c reply) := by
  obtain ⟨store, applied⟩ | ⟨cs, known, published, applied⟩ | ⟨cs, -, store, applied⟩ :=
    r.endCall_changes c reply
  · have base : (r.endCall c reply).base = r.base := by rw [Run.base, applied, Run.base]
    refine ⟨?_, ?_⟩
    · rw [store, base]
      exact h.known
    · rw [store, applied]
      exact h.published
  · have base : (r.endCall c reply).base = cs := by
      rw [Run.base, applied, List.getLast?_concat, Option.getD_some]
    refine ⟨?_, ?_⟩
    · rw [known, base]
      exact fun _ => rfl
    · rw [published, applied]
      intro ds hd
      obtain hd | hd := List.mem_append.mp hd
      · obtain ⟨base, among, same⟩ := h.published ds hd
        exact ⟨base, among.imp_right (List.mem_append_left _), same⟩
      · cases List.mem_singleton.mp hd
        exact ⟨cs, .inr (by simp), fun _ => rfl⟩
  · have base : (r.endCall c reply).base = r.base := by rw [Run.base, applied, Run.base]
    have merged := h.known.merged cs
    refine ⟨?_, ?_⟩
    · rw [store, base, connections_applyUpdate]
      exact merged
    · rw [store, applied]
      intro ds hd
      obtain hd | hd := List.mem_append.mp hd
      · exact h.published ds hd
      · cases List.mem_singleton.mp hd
        rw [Connection.snd_mergeAll_eq_merged]
        exact ⟨r.base, r.base_mem, merged⟩

theorem rests_of_run (es : List Event) : Rests (run es) :=
  Run.foldl_kept (fun _ name a _ h => h.beginCall name a) (fun _ c reply _ h => h.endCall c reply)
    es .new rests_new

theorem Rests.length_le {r : Run} (h : Rests r) (streamId : String) :
    (r.store.ofStream streamId).length ≤ max 1 (Connection.ofStream streamId r.base).length :=
  h.known.length_le streamId

theorem Rests.nodup {r : Run} (h : Rests r)
    (distinct : ∀ cs ∈ r.applied, (cs.map (·.streamId)).Nodup) :
    ((r.store.connections.getD []).map (·.streamId)).Nodup ∧
      ∀ cs ∈ r.store.published.history, (cs.map (·.streamId)).Nodup := by
  have ofBase {base : List Connection} (among : base = [] ∨ base ∈ r.applied) :
      (base.map (·.streamId)).Nodup := by
    obtain rfl | among := among
    · exact .nil
    · exact distinct base among
  refine ⟨h.known.nodup (ofBase r.base_mem), fun cs hc => ?_⟩
  obtain ⟨base, among, same⟩ := h.published cs hc
  exact same.nodup (ofBase among)

theorem length_ofStream_applyUpdate (s : Store) (cs : List Connection) (streamId : String) :
    ((s.applyUpdate cs).ofStream streamId).length ≤ max 1 (s.ofStream streamId).length := by
  have rests : SameRests (Connection.merged (s.connections.getD []) cs)
      (s.connections.getD []) :=
    SameRests.merged (fun _ => rfl) cs
  rw [ofStream, connections_applyUpdate]
  exact rests.length_le streamId

/-- A stream has one connection at most, or no more than the list had that was applied last. An
update never adds a second one. If the applied lists have one connection for each stream, so have
all collections that are known or were published. -/
theorem length_ofStream_of_run (es : List Event) :
    (∀ streamId, ((run es).store.ofStream streamId).length ≤
      max 1 (Connection.ofStream streamId (run es).base).length) ∧
    (∀ name c reply cs, (run es).waiting? name = some c →
      c.pending.success? reply = some (.update cs) →
      ∀ streamId, ((run (es ++ [.ends name reply])).store.ofStream streamId).length ≤
        max 1 ((run es).store.ofStream streamId).length) ∧
    ((∀ cs ∈ (run es).applied, (cs.map (·.streamId)).Nodup) →
      (((run es).store.connections.getD []).map (·.streamId)).Nodup ∧
        ∀ cs ∈ (run es).store.published.history, (cs.map (·.streamId)).Nodup) := by
  have rests := rests_of_run es
  refine ⟨rests.length_le, fun name c reply cs waits brought streamId => ?_, rests.nodup⟩
  have store := (run es).store_endCall c reply
  rw [brought] at store
  rw [run_ends waits, store]
  exact length_ofStream_applyUpdate (run es).store cs streamId

/-- An update names stream B twice, after a list that names stream A twice or each stream once. -/
theorem length_ofStream_of_run_repeated :
    let reply (streamIds : List String) : Reply :=
      .ok (.arr (streamIds.map fun streamId => .obj [("stream_id", .str streamId)]))
    let listed (streamIds : List String) : List Event :=
      [.begins "list" .list, .begins "update" (.assignPipeline ⟨"p", ["B"]⟩),
        .ends "list" (reply streamIds)]
    let after (streamIds : List String) : Store :=
      (run (listed streamIds ++ [.ends "update" (reply ["B", "B"])])).store
    ((after ["A", "A"]).ofStream "A").length ≤ 2 ∧
      ((after ["A", "A"]).ofStream "B").length ≤ 1 ∧
      (((after ["A", "C"]).connections.getD []).map (·.streamId)).Nodup := by
  intro reply listed after
  have ofA := (length_ofStream_of_run
    (listed ["A", "A"] ++ [.ends "update" (reply ["B", "B"])])).1 "A"
  have ofB := (length_ofStream_of_run (listed ["A", "A"])).2.1 "update"
    ⟨"update", .assignPipeline ⟨"p", ["B"]⟩⟩ (reply ["B", "B"])
    [⟨none, "B", .empty⟩, ⟨none, "B", .empty⟩] rfl rfl "B"
  have distinct := (length_ofStream_of_run
    (listed ["A", "C"] ++ [.ends "update" (reply ["B", "B"])])).2.2 (by decide)
  exact ⟨ofA, ofB, distinct.1⟩

theorem Rests.ofStream_merged {r : Run} (h : Rests r) {cs : List Connection} {streamId : String}
    {d : Connection} (last : (Connection.ofStream streamId cs).getLast? = some d) :
    Connection.ofStream streamId (Connection.merged (r.store.connections.getD []) cs) =
      d :: (Connection.ofStream streamId r.base).tail := by
  have head := Connection.head?_ofStream_merged streamId (r.store.connections.getD []) cs
  have tail := h.known.merged cs streamId
  rw [last, Option.some_or] at head
  obtain ⟨others, split⟩ := List.head?_eq_some_iff.mp head
  rw [split, List.tail_cons] at tail
  rw [split, tail]

/-- After an update the last connection that it names for a stream is the first one of the stream,
both in what is known and in what is published. All others are the later ones of the list that
was applied last: if that had one connection for the stream at most, there are no others. -/
theorem ofStream_of_update (es : List Event) (name : String) (c : Begun) (reply : Reply)
    (cs : List Connection) (waits : (run es).waiting? name = some c)
    (brought : c.pending.success? reply = some (.update cs)) :
    ∃ after, (run (es ++ [.ends name reply])).store.connections = some after ∧
      (run (es ++ [.ends name reply])).store.published =
        (run es).store.published.publish after ∧
      ∀ streamId d, (Connection.ofStream streamId cs).getLast? = some d →
        Connection.ofStream streamId after =
          d :: (Connection.ofStream streamId (run es).base).tail ∧
        ((Connection.ofStream streamId (run es).base).length ≤ 1 →
          ∀ e ∈ after, e.streamId = streamId → e = d) := by
  have rests := rests_of_run es
  have store := (run es).store_endCall c reply
  rw [brought] at store
  rw [run_ends waits, store]
  refine ⟨_, connections_applyUpdate _ cs, ?_, fun streamId d last => ?_⟩
  · rw [← Connection.snd_mergeAll_eq_merged]
    rfl
  · have found := rests.ofStream_merged last
    refine ⟨found, fun single e he same => ?_⟩
    have among : e ∈ Connection.ofStream streamId
        (Connection.merged ((run es).store.connections.getD []) cs) :=
      List.mem_filter.mpr ⟨he, by simpa using same⟩
    have none : (Connection.ofStream streamId (run es).base).tail = [] := by
      apply List.eq_nil_of_length_eq_zero
      rw [List.length_tail]
      omega
    rw [found, none] at among
    exact List.mem_singleton.mp among

/-- The list had one connection of stream A and two of stream B. -/
theorem ofStream_of_update_repeated :
    let es : List Event :=
      [.begins "list" .list, .begins "update" (.assignPipeline ⟨"p", ["A", "B"]⟩),
        .ends "list" (.ok (.arr [.obj [("stream_id", .str "B")], .obj [("stream_id", .str "A")],
          .obj [("id", .str "old"), ("stream_id", .str "B")]]))]
    let reply : Reply :=
      .ok (.arr [.obj [("id", .str "first"), ("stream_id", .str "B")],
        .obj [("id", .str "a"), ("stream_id", .str "A")],
        .obj [("id", .str "second"), ("stream_id", .str "B")]])
    let a : Connection := ⟨some "a", "A", .empty⟩
    let b : Connection := ⟨some "second", "B", .empty⟩
    ∃ after, (run (es ++ [.ends "update" reply])).store.connections = some after ∧
      (∀ e ∈ after, e.streamId = "A" → e = a) ∧
      Connection.ofStream "B" after = [b, ⟨some "old", "B", .empty⟩] := by
  intro es reply a b
  obtain ⟨after, known, -, left⟩ :=
    ofStream_of_update es "update" ⟨"update", .assignPipeline ⟨"p", ["A", "B"]⟩⟩ reply
      [⟨some "first", "B", .empty⟩, a, b] rfl rfl
  have ofA := (left "A" a (by decide)).2 (by decide)
  have ofB := (left "B" b (by decide)).1
  exact ⟨after, known, ofA, ofB.trans (by decide)⟩

/-- A list that names a stream twice leaves a connection that an update of the stream does not
change. -/
theorem stale_after_update :
    ¬ ∀ (es : List Event) (name : String) (c : Begun) (reply : Reply) (d : Connection),
      (run es).waiting? name = some c → c.pending.success? reply = some (.update [d]) →
      ∀ e ∈ (run (es ++ [.ends name reply])).store.connections.getD [],
        e.streamId = d.streamId → e = d := by
  intro fresh
  have old := fresh
    [.begins "list" .list, .begins "update" (.assignStream ⟨"A", ["q"]⟩),
      .ends "list" (.ok (.arr [.obj [("stream_id", .str "A")], .obj [("stream_id", .str "A")]]))]
    "update" ⟨"update", .assignStream ⟨"A", ["q"]⟩⟩
    (.ok (.obj [("stream_id", .str "A"), ("pipeline_ids", .arr [.str "q"])]))
    ⟨none, "A", .ofList ["q"]⟩ rfl rfl ⟨none, "A", .empty⟩ (by decide) rfl
  exact absurd old (by decide)

end Store
end StreamPipelines
