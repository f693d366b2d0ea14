import StreamPipelines.Proofs.Connection.History

/-!
What becomes of an update. The connections of its streams stay as they are until a later update
names the stream or a list is applied. A list is applied if it began after every list that has
succeeded before it. It need not have begun after the update: one that was under way while the
update was made can undo it.
-/

namespace StreamPipelines
namespace Store

open Connection (merged)

def ofStream (s : Store) (streamId : String) : List Connection :=
  Connection.ofStream streamId (s.connections.getD [])

/-- The success sets what is known of the stream, if it comes after the past ones. -/
def Success.Sets (streamId : String) (past : List Success) : Success → Prop
  | .list token _ => Newest token past
  | .update cs => ∃ c ∈ cs, c.streamId = streamId

variable {past : List Success} {s : Store} {streamId : String}

theorem Tracks.ofStream_take_list (h : Tracks past s) {t : Token} (pos : 0 < t.value.toNat)
    (cs : List Connection) :
    (Newest t past → (s.take (.list t cs)).ofStream streamId = Connection.ofStream streamId cs) ∧
      (¬ Newest t past → (s.take (.list t cs)).ofStream streamId = s.ofStream streamId) := by
  rw [take_list, ← h.newest_iff pos]
  exact ⟨fun newer => by rw [if_pos newer]; rfl, fun older => by rw [if_neg older]⟩

theorem ofStream_take_update (s : Store) (streamId : String) (cs : List Connection) :
    (s.take (.update cs)).ofStream streamId =
      Connection.ofStream streamId (merged (s.connections.getD []) cs) := by
  simp only [ofStream, take, connections_applyUpdate, Option.getD_some]

theorem Tracks.ofStream_take (h : Tracks past s) (x : Success)
    (pos : ∀ t cs, x = .list t cs → 0 < t.value.toNat) (other : ¬ x.Sets streamId past) :
    (s.take x).ofStream streamId = s.ofStream streamId := by
  cases x with
  | list t cs => exact (h.ofStream_take_list (pos t cs rfl) cs).2 other
  | update cs =>
      rw [ofStream_take_update]
      exact Connection.ofStream_merged_other (fun c hc same => other ⟨c, hc, same⟩) _

theorem ofStream_foldl (es : List Event) (r : Run) (few : (es.foldl Run.step r).lists < 2 ^ 64)
    (h : r.Ordered ∧ Tracks r.successes r.store)
    (kept : ∀ left x right,
      (es.foldl Run.step r).successes = r.successes ++ left ++ x :: right →
        ¬ x.Sets streamId (r.successes ++ left)) :
    (es.foldl Run.step r).store.ofStream streamId = r.store.ofStream streamId := by
  induction es generalizing r with
  | nil => rfl
  | cons e es ih =>
      have fewer := Nat.lt_of_le_of_lt (Run.lists_le_foldl es (r.step e)) few
      have next := Run.tracks_foldl [e] fewer h
      obtain ⟨successes, same⟩ | ⟨c, reply, x, waits, hx, store, successes⟩ := r.step_successes e
      · refine (ih (r.step e) few next fun left x right => ?_).trans ?_
        · rw [successes]
          exact kept left x right
        · simp only [ofStream, same]
      · refine (ih (r.step e) few next fun left y right => ?_).trans ?_
        · rw [successes]
          simpa using kept (x :: left) y right
        · rw [store]
          refine h.2.ofStream_take x (fun t cs hl => ?_) ?_
          · exact (h.1.unseen waits (list_of_success? (hl ▸ hx))).1
          · -- This success is the first of those that are known not to set the stream.
            obtain ⟨since, rest⟩ := Run.successes_foldl es (r.step e)
            have none := kept [] x since (by rw [List.foldl_cons, rest, successes]; simp)
            rwa [List.append_nil] at none

theorem ofStream_endCall {r : Run} {c : Begun} {name : String}
    (h : r.Ordered ∧ Tracks r.successes r.store) (waits : r.waiting? name = some c)
    (reply : Reply) :
    (c.pending.success? reply = none →
      (r.endCall c reply).store.ofStream streamId = r.store.ofStream streamId) ∧
    (∀ cs, c.pending.success? reply = some (.update cs) → (∃ d ∈ cs, d.streamId = streamId) →
      ((r.endCall c reply).store.ofStream streamId).head? =
        (Connection.ofStream streamId cs).getLast?) ∧
    ∀ t cs, c.pending.success? reply = some (.list t cs) →
      (Newest t r.successes → (r.endCall c reply).store.connections = some cs) ∧
      (¬ Newest t r.successes →
        (r.endCall c reply).store.ofStream streamId = r.store.ofStream streamId) := by
  obtain ⟨failed, store, -⟩ | ⟨x, hx, store, -⟩ := r.endCall_cases c reply
  · simp [store, failed]
  · rw [store, hx]
    refine ⟨nofun, fun cs same named => ?_, fun t cs same => ?_⟩
    · cases same
      obtain ⟨d, hd, named⟩ := named
      have found : d ∈ Connection.ofStream streamId cs :=
        List.mem_filter.mpr ⟨hd, by simpa using named⟩
      rw [ofStream_take_update, Connection.head?_ofStream_merged,
        List.getLast?_eq_some_getLast (List.ne_nil_of_mem found)]
      rfl
    · cases same
      obtain ⟨pos, -⟩ := h.1.unseen waits (list_of_success? hx)
      refine ⟨fun newest => ?_, (h.2.ofStream_take_list pos cs).2⟩
      rw [take_list, if_pos ((h.2.newest_iff pos).mpr newest)]

/-- What is known of a stream changes only by an update that names the stream, of which the last
connection then comes first, and by a list that began after all lists that have succeeded, which
replaces everything. So a list that was under way while an update was made leaves the update alone
if it fails, or if a list that began later has succeeded already. -/
theorem ofStream_of_run (streamId : String) (es later : List Event)
    (few : (run (es ++ later)).lists < 2 ^ 64) :
    (∀ name c reply, (run es).waiting? name = some c →
      (c.pending.success? reply = none →
        (run (es ++ [.ends name reply])).store.ofStream streamId =
          (run es).store.ofStream streamId) ∧
      (∀ cs, c.pending.success? reply = some (.update cs) → (∃ d ∈ cs, d.streamId = streamId) →
        ((run (es ++ [.ends name reply])).store.ofStream streamId).head? =
          (Connection.ofStream streamId cs).getLast?) ∧
      ∀ t cs, c.pending.success? reply = some (.list t cs) →
        (Newest t (run es).successes →
          (run (es ++ [.ends name reply])).store.connections = some cs) ∧
        (¬ Newest t (run es).successes →
          (run (es ++ [.ends name reply])).store.ofStream streamId =
            (run es).store.ofStream streamId)) ∧
    ((∀ left x right, (run (es ++ later)).successes = (run es).successes ++ left ++ x :: right →
        ¬ x.Sets streamId ((run es).successes ++ left)) →
      (run (es ++ later)).store.ofStream streamId = (run es).store.ofStream streamId) ∧
    (run (es ++ later)).begun.Pairwise fun c d =>
      ∀ t u, c.pending = .list t → d.pending = .list u → t < u := by
  have before : (run es).lists < 2 ^ 64 := by
    rw [run_append] at few
    exact Nat.lt_of_le_of_lt (Run.lists_le_foldl later _) few
  have h := Run.tracks_run es before
  refine ⟨fun name c reply waits => ?_, fun kept => ?_, (Run.ordered_run _ few).tokens⟩
  · rw [run_ends waits]
    exact ofStream_endCall h waits reply
  · rw [run_append] at few kept ⊢
    exact ofStream_foldl later (run es) few h kept

theorem ofStream_of_run_failed_list :
    let es : List Event :=
      [.begins "list" .list, .begins "update" (.assignStream ⟨"A", ["p"]⟩),
        .ends "update" (.ok (.obj [("stream_id", .str "A"), ("pipeline_ids", .arr [.str "p"])]))]
    let later : List Event := [.ends "list" (.ok .null)]
    (run (es ++ later)).lists < 2 ^ 64 ∧
      (run (es ++ later)).store.ofStream "A" = [⟨none, "A", .ofList ["p"]⟩] := by
  intro es later
  have few : (run (es ++ later)).lists < 2 ^ 64 := by decide
  refine ⟨few, ((ofStream_of_run "A" es later few).2.1 fun left x right none => ?_).trans rfl⟩
  have length := congrArg List.length none
  simp only [List.length_append, List.length_cons] at length
  have same : (run (es ++ later)).successes.length = (run es).successes.length := rfl
  omega

/-- A list that was under way while an update was made can undo it. -/
theorem update_undone :
    ¬ ∀ (es since : List Event) (list update : String) (l u : Begun) (t : Token)
        (reply answer : Reply) (cs : List Connection) (c : Connection),
      (run es).waiting? list = some l → l.pending = .list t →
      (run es).waiting? update = some u → u.pending.success? reply = some (.update cs) →
      c ∈ cs → (run (es ++ .ends update reply :: since)).waiting? list = some l →
      (run (es ++ .ends update reply :: since ++ [.ends list answer])).store.ofStream c.streamId =
        (run (es ++ .ends update reply :: since)).store.ofStream c.streamId := by
  intro kept
  have undone := kept [.begins "list" .list, .begins "update" (.assignStream ⟨"A", ["p"]⟩)] []
    "list" "update" ⟨"list", .list ⟨1⟩⟩ ⟨"update", .assignStream ⟨"A", ["p"]⟩⟩ ⟨1⟩
    (.ok (.obj [("stream_id", .str "A"), ("pipeline_ids", .arr [.str "p"])])) (.ok (.arr []))
    [⟨none, "A", .ofList ["p"]⟩] ⟨none, "A", .ofList ["p"]⟩ rfl rfl rfl rfl (by simp) rfl
  exact absurd undone (by decide)

end Store
end StreamPipelines
