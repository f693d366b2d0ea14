import Mathlib.Data.List.Induction
import Mathlib.Tactic.ByContra
import StreamPipelines.Proofs.Connection.History
import StreamPipelines.Proofs.Connection.Removal

/-!
What a store publishes. A completion changes what is known, and then publishes all of it, or it
leaves the store as it is: so the history of the feed is that of the connections, without the
calls that failed and the lists that were overtaken. Of the updates that succeed, and of no other
call, the user is told.
-/

namespace StreamPipelines

def Notice.isSuccess : Notice → Bool
  | .success _ => true
  | .failure _ _ => false

namespace Store

/-- What is known right after the completion. -/
def Ended.known (e : Ended) : Option (List Connection) :=
  e.completion.store.connections

/-- The call was taken into what is known: an update that succeeded, or a list that succeeded and
was not overtaken. -/
def Ended.changes (e : Ended) : Bool :=
  match e.success? with
  | some (.list token _) => (e.store.lists.tryCommit token).1
  | some (.update _) => true
  | none => false

/-- An update that succeeded. -/
def Ended.isUpdate (e : Ended) : Bool :=
  match e.success? with
  | some (.update _) => true
  | some (.list _ _) | none => false

variable {e : Ended}

theorem Ended.completion_cases (e : Ended) :
    (e.success? = none ∧ e.Failed ∧ e.completion.store = e.store ∧
      ∃ title text, e.completion.notices = [.failure title text]) ∨
    ∃ x, e.success? = some x ∧ ¬ e.Failed ∧ e.completion.store = e.store.take x ∧
      e.completion.notices = x.notices := by
  obtain ⟨cause, title, text, failed, h⟩ | ⟨x, answer, succeeded, h⟩ :=
    e.store.complete_cases e.call.pending e.reply
  · exact .inl ⟨failed, ⟨cause, by rw [completion, h]⟩, by rw [completion, h],
      title, text, by rw [completion, h]⟩
  · refine .inr ⟨x, succeeded, ?_, by rw [completion, h], by rw [completion, h]⟩
    rintro ⟨cause, failed⟩
    rw [completion, h] at failed
    cases failed

theorem Ended.failed_iff (e : Ended) : e.Failed ↔ e.success? = none := by
  obtain ⟨none, failed, -, -⟩ | ⟨x, brought, succeeded, -, -⟩ := e.completion_cases
  · exact iff_of_true failed none
  · exact iff_of_false succeeded (by simp [brought])

theorem Ended.overtaken_iff (e : Ended) :
    e.Overtaken ↔ ∃ t cs, e.success? = some (.list t cs) ∧
      ¬ e.store.lists.committed < t.value := by
  have refused (t : Token) : (e.store.lists.tryCommit t).1 = false ↔
      ¬ e.store.lists.committed < t.value := by
    by_cases newer : e.store.lists.committed < t.value <;> simp [Sequencer.tryCommit, newer]
  constructor
  · rintro ⟨t, cs, called, read, older⟩
    exact ⟨t, cs, by simp [success?, called, Pending.success?, read, Except.toOption],
      (refused t).mp older⟩
  · rintro ⟨t, cs, brought, older⟩
    have called := list_of_success? brought
    refine ⟨t, cs, called, ?_, (refused t).mpr older⟩
    rw [success?, called] at brought
    obtain ⟨ds, read, same⟩ := Option.map_eq_some_iff.mp brought
    cases same
    cases found : list.read e.reply with
    | error cause => simp [found, Except.toOption] at read
    | ok es =>
        rw [found] at read
        cases read
        rfl

theorem Ended.changes_iff (e : Ended) : e.changes = true ↔ ¬ e.Failed ∧ ¬ e.Overtaken := by
  rw [e.failed_iff, e.overtaken_iff, changes]
  cases brought : e.success? with
  | none => simp
  | some x =>
      cases x with
      | update cs => simp
      | list t cs =>
          by_cases newer : e.store.lists.committed < t.value <;> simp [Sequencer.tryCommit, newer]

theorem Ended.isUpdate_iff (e : Ended) :
    e.isUpdate = true ↔ ¬ e.Failed ∧ e.call.pending.action ≠ .list := by
  rw [e.failed_iff, isUpdate]
  cases brought : e.success? with
  | none => simp
  | some x =>
      cases x with
      | list t cs => simp [list_of_success? brought, Pending.action]
      | update cs =>
          cases called : e.call.pending with
          | assignStream a | assignPipeline a => simp [Pending.action]
          | list t =>
              rw [success?, called] at brought
              obtain ⟨ds, -, same⟩ := Option.map_eq_some_iff.mp brought
              cases same

/-- What changes the connections publishes them. -/
theorem Ended.publishes (h : e.changes = true) :
    ∃ cs, e.known = some cs ∧ e.completion.store.published = e.store.published.publish cs := by
  rw [known]
  obtain ⟨none, -, -, -⟩ | ⟨x, brought, -, store, -⟩ := e.completion_cases
  · simp [changes, none] at h
  · rw [store]
    cases x with
    | update cs => exact ⟨_, rfl, rfl⟩
    | list t cs =>
        have newer : e.store.lists.committed < t.value := by
          by_contra older
          exact (e.changes_iff.mp h).2 (e.overtaken_iff.mpr ⟨t, cs, brought, older⟩)
        rw [take_list, if_pos newer]
        exact ⟨cs, rfl, rfl⟩

theorem Ended.store_of_unchanged (h : e.changes = false) : e.completion.store = e.store := by
  refine store_of_idle ?_
  by_contra none
  rw [not_or, ← e.changes_iff, h] at none
  cases none

theorem Ended.successNotices (e : Ended) :
    e.completion.notices.filter Notice.isSuccess = if e.isUpdate then [updated] else [] := by
  obtain ⟨none, -, -, title, text, told⟩ | ⟨x, brought, -, -, told⟩ := e.completion_cases
  · rw [told, isUpdate, none]
    rfl
  · rw [told, isUpdate, brought]
    cases x <;> rfl

namespace Run

variable {r : Run} {c : Begun}

/-- The snapshots so far are those of the completions that changed something, and the last one is
what is known. -/
structure Published (r : Run) : Prop where
  history : r.store.published.history.map some =
    (r.ended.filter Ended.changes).map Ended.known
  last : ∀ cs, r.store.published.history.getLast? = some cs → r.store.connections = some cs

theorem published_new : Published .new :=
  ⟨rfl, nofun⟩

theorem Published.beginCall (h : Published r) (name : String) (a : Action) :
    Published (r.beginCall name a) := by
  refine ⟨?_, ?_⟩
  · rw [published_beginCall]
    exact h.history
  · rw [published_beginCall, connections_beginCall]
    exact h.last

theorem Published.endCall (h : Published r) (c : Begun) (reply : Reply) :
    Published (r.endCall c reply) := by
  let e : Ended := ⟨c, reply, r.store⟩
  have ended : (r.endCall c reply).ended = r.ended ++ [e] := rfl
  have store : (r.endCall c reply).store = e.completion.store := rfl
  cases changed : e.changes with
  | false =>
      have same : (r.endCall c reply).store = r.store :=
        store.trans (Ended.store_of_unchanged changed)
      refine ⟨?_, by rw [same]; exact h.last⟩
      rw [same, ended, List.filter_append, List.filter_cons_of_neg (by simp [changed]),
        List.filter_nil, List.append_nil]
      exact h.history
  | true =>
      obtain ⟨cs, known, published⟩ := Ended.publishes changed
      have history : (r.endCall c reply).store.published.history =
          r.store.published.history ++ [cs] := by
        rw [store, published]
        rfl
      refine ⟨?_, fun ds last => ?_⟩
      · rw [history, ended, List.filter_append, List.filter_cons_of_pos changed, List.filter_nil,
          List.map_append, List.map_append, h.history, List.map_singleton, List.map_singleton,
          known]
      · rw [history, List.getLast?_concat] at last
        cases last
        rw [store]
        exact known

theorem notices_filter_isSuccess (r : Run) :
    r.notices.filter Notice.isSuccess = (r.ended.filter Ended.isUpdate).map fun _ => updated := by
  unfold notices
  induction r.ended with
  | nil => rfl
  | cons e es ih =>
      rw [List.flatMap_cons, List.filter_append, ih, e.successNotices, List.filter_cons]
      cases e.isUpdate <;> rfl

end Run

theorem published_of_run (es : List Event) : (run es).Published :=
  Run.foldl_kept (fun _ name a _ h => h.beginCall name a) (fun _ c reply _ h => h.endCall c reply)
    es .new Run.published_new

/-- The completion is a step of the run: before it the calls of `before` had been completed. -/
def Ended.IsStep (es : List Event) (before : List Ended) (e : Ended) : Prop :=
  ∃ past since, es = past ++ .ends e.call.name e.reply :: since ∧
    (run past).waiting? e.call.name = some e.call ∧
    (run past).ended = before ∧ (run past).store = e.store ∧
    (run (past ++ [.ends e.call.name e.reply])).store = e.completion.store

theorem isStep_of_run {es : List Event} {before : List Ended} {e : Ended} {after : List Ended}
    (split : (run es).ended = before ++ e :: after) : e.IsStep es before := by
  induction es using List.reverseRecOn generalizing after with
  | nil => simp [run, Run.new] at split
  | append_singleton es event ih =>
      have earlier {rest : List Ended} (h : (run es).ended = before ++ e :: rest) :
          e.IsStep (es ++ [event]) before := by
        obtain ⟨past, since, events, step⟩ := ih h
        exact ⟨past, since ++ [event], by simp [events], step⟩
      have stepped : run (es ++ [event]) = (run es).step event := run_append es [event]
      rw [stepped] at split
      obtain same | ⟨name, a, -, -, begun⟩ | ⟨c, reply, rfl, waits, completed⟩ :=
        (run es).step_cases event
      · exact earlier (same ▸ split)
      · rw [begun] at split
        exact earlier split
      · rw [completed] at split
        have ended : (run es).ended ++ [⟨c, reply, (run es).store⟩] = before ++ e :: after := split
        obtain rfl | ⟨most, last, rfl⟩ := List.eq_nil_or_concat after
        · obtain ⟨rfl, last⟩ := List.append_inj' ended rfl
          cases last
          refine ⟨es, [], rfl, waits, rfl, rfl, ?_⟩
          rw [stepped, completed]
          rfl
        · rw [List.concat_eq_append, ← List.cons_append, ← List.append_assoc] at ended
          exact earlier (List.append_inj' ended rfl).1

/-- A list is overtaken exactly if one that began later has succeeded before. -/
theorem overtaken_of_run {es : List Event} (few : (run es).lists < 2 ^ 64) {before : List Ended}
    {e : Ended} {after : List Ended} (split : (run es).ended = before ++ e :: after) :
    e.Overtaken ↔ ¬ e.Failed ∧ ∃ f ∈ before, ¬ f.Failed ∧
      ∃ t u, e.call.pending = .list t ∧ f.call.pending = .list u ∧ t < u := by
  obtain ⟨past, since, rfl, waits, rfl, store, -⟩ := isStep_of_run split
  have fewer : (run past).lists < 2 ^ 64 := by
    rw [run_append] at few
    exact Nat.lt_of_le_of_lt (Run.lists_le_foldl _ _) few
  obtain ⟨ordered, tracks⟩ := Run.tracks_run past fewer
  have brings {f : Ended} {u : Token} (succeeded : ¬ f.Failed) (called : f.call.pending = .list u) :
      ∃ ds, f.success? = some (.list u ds) := by
    rw [f.failed_iff, Ended.success?, called] at succeeded
    obtain ⟨x, brought⟩ := Option.ne_none_iff_exists'.mp succeeded
    obtain ⟨ds, -, rfl⟩ := Option.map_eq_some_iff.mp brought
    exact ⟨ds, by rw [Ended.success?, called, brought]⟩
  rw [e.overtaken_iff, ← store]
  constructor
  · rintro ⟨t, cs, brought, older⟩
    have called := list_of_success? brought
    obtain ⟨pos, unseen⟩ := ordered.unseen waits called
    obtain ⟨u, ds, later, lt⟩ := exists_of_not_newest unseen (mt (tracks.newest_iff pos).mpr older)
    obtain ⟨f, hf, taken⟩ := List.mem_filterMap.mp later
    refine ⟨by simp [e.failed_iff, brought], f, hf, by simp [f.failed_iff, taken], t, u, called,
      list_of_success? taken, lt⟩
  · rintro ⟨succeeded, f, hf, before, t, u, called, other, lt⟩
    obtain ⟨cs, brought⟩ := brings succeeded called
    obtain ⟨ds, taken⟩ := brings before other
    obtain ⟨pos, -⟩ := ordered.unseen waits called
    refine ⟨t, cs, brought, fun newer => ?_⟩
    have newest := (tracks.newest_iff pos).mp newer u ds (List.mem_filterMap.mpr ⟨f, hf, taken⟩)
    exact Token.lt_irrefl _ (Token.lt_trans lt newest)

/-- The snapshots that a run publishes are what was known right after each completion that changed
it, one for each and in their order; the last one is what is known. A completion changes what is
known unless it failed or is a list that was overtaken by one that began later. The user is told
of the success of each update that succeeded, in the same order, and of no other call. -/
theorem history_of_run (es : List Event) :
    (run es).store.published.history.map some =
      ((run es).ended.filter Ended.changes).map Ended.known ∧
    (∀ cs, (run es).store.published.history.getLast? = some cs →
      (run es).store.connections = some cs) ∧
    (run es).notices.filter Notice.isSuccess =
      ((run es).ended.filter Ended.isUpdate).map (fun _ => updated) ∧
    ∀ before e after, (run es).ended = before ++ e :: after →
      e.IsStep es before ∧
      (e.changes = true ↔ ¬ e.Failed ∧ ¬ e.Overtaken) ∧
      (e.isUpdate = true ↔ ¬ e.Failed ∧ e.call.pending.action ≠ .list) ∧
      ((run es).lists < 2 ^ 64 → (e.Overtaken ↔ ¬ e.Failed ∧ ∃ f ∈ before, ¬ f.Failed ∧
        ∃ t u, e.call.pending = .list t ∧ f.call.pending = .list u ∧ t < u)) := by
  have published := published_of_run es
  refine ⟨published.history, published.last, (run es).notices_filter_isSuccess,
    fun before e after split => ?_⟩
  exact ⟨isStep_of_run split, e.changes_iff, e.isUpdate_iff, fun few => overtaken_of_run few split⟩

/-- An update of no stream publishes once more what was known; a list that was overtaken and an
update that failed publish nothing. -/
theorem history_of_run_overtaken :
    let a : Connection := ⟨none, "A", .empty⟩
    let es : List Event :=
      [.begins "old" .list, .begins "new" .list, .begins "none" (.assignPipeline ⟨"p", []⟩),
        .begins "bad" (.assignStream ⟨"A", ["p"]⟩),
        .ends "new" (.ok (.arr [.obj [("stream_id", .str "A")]])), .ends "none" (.ok (.arr [])),
        .ends "old" (.ok (.arr [])), .ends "bad" (.ok .null)]
    (run es).lists < 2 ^ 64 ∧
      (run es).store.published.history.map some = [some [a], some [a]] ∧
      (run es).store.connections = some [a] ∧
      (run es).notices.filter Notice.isSuccess = [updated] ∧
      ∃ before e after, (run es).ended = before ++ e :: after ∧ e.call.name = "old" ∧
        e.IsStep es before ∧ e.Overtaken := by
  intro a es
  have few : (run es).lists < 2 ^ 64 := by decide
  obtain ⟨history, last, successes, completions⟩ := history_of_run es
  refine ⟨few, history, last [a] rfl, successes, (run es).ended.take 2, _, _, rfl, rfl, ?_⟩
  obtain ⟨step, -, -, overtaken⟩ := completions ((run es).ended.take 2) _ _ rfl
  refine ⟨step, (overtaken few).mpr ⟨?_, _, .head _, ?_, _, _, rfl, rfl, by decide⟩⟩ <;>
    exact (Ended.failed_iff _).not.mpr (Option.some_ne_none _)

end Store
end StreamPipelines
