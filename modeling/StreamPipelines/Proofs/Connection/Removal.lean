import StreamPipelines.Proofs.Connection.Run

/-!
Calls without a trace. A call that fails, or a list that is overtaken, could as well not have
been made: without it the run has the same connections, publishes the same, and completes the
other calls with the same results and notices. Only the tokens differ, as those of later lists are
smaller; the two runs are related by keeping the tokens of their lists, and the tokens that were
committed, in the same order.
-/

namespace StreamPipelines
namespace Store

theorem report_complete {p q : Pending} (same : p.action = q.action) (s t : Store)
    (reply : Reply) :
    (s.complete p reply).result = (t.complete q reply).result ∧
      (s.complete p reply).notices = (t.complete q reply).notices := by
  cases p with
  | list token =>
      cases q <;> cases same
      simp only [complete]
      cases list.read reply <;> exact ⟨rfl, rfl⟩
  | assignStream a =>
      cases q <;> cases same
      simp only [complete]
      cases (assignStream a).read reply <;> exact ⟨rfl, rfl⟩
  | assignPipeline a =>
      cases q <;> cases same
      simp only [complete]
      cases (assignPipeline a).read reply <;> exact ⟨rfl, rfl⟩

theorem success?_cases {p q : Pending} (same : p.action = q.action) (reply : Reply) :
    p.success? reply = q.success? reply ∧ (∀ t cs, p.success? reply ≠ some (.list t cs)) ∨
    ∃ t u cs, p.success? reply = some (.list t cs) ∧ q.success? reply = some (.list u cs) := by
  cases p with
  | list t =>
      cases q with
      | list u =>
          simp only [Pending.success?]
          cases list.read reply with
          | error e => exact .inl ⟨rfl, fun _ _ => (Option.some_ne_none _).symm⟩
          | ok cs => exact .inr ⟨t, u, cs, rfl, rfl⟩
      | assignStream a | assignPipeline a => cases same
  | assignStream a | assignPipeline a =>
      cases q <;> cases same
      refine .inl ⟨rfl, fun t cs h => ?_⟩
      cases list_of_success? h

def Ended.Failed (e : Ended) : Prop :=
  ∃ cause, e.completion.result = .error cause

/-- The call is a list that succeeded after one that had begun later. -/
def Ended.Overtaken (e : Ended) : Prop :=
  ∃ token cs, e.call.pending = .list token ∧ list.read e.reply = .ok cs ∧
    (e.store.lists.tryCommit token).1 = false

theorem Ended.Failed.completion_eq {e : Ended} (h : e.Failed) :
    e.completion.store = e.store ∧ ∃ title text, e.completion.notices = [.failure title text] := by
  obtain ⟨cause, h⟩ := h
  obtain ⟨_, title, text, -, failed⟩ | ⟨x, answer, -, succeeded⟩ :=
    e.store.complete_cases e.call.pending e.reply
  · rw [completion, failed]
    exact ⟨rfl, title, text, rfl⟩
  · rw [completion, succeeded] at h
    cases h

theorem Ended.Overtaken.completion_eq {e : Ended} (h : e.Overtaken) :
    e.completion.store = e.store ∧ e.completion.notices = [] := by
  obtain ⟨token, cs, called, read, older⟩ := h
  have notNewer : ¬ e.store.lists.committed < token.value := by
    intro newer
    simp [Sequencer.tryCommit, newer] at older
  have taken := take_list e.store token cs
  rw [if_neg notNewer] at taken
  simp only [completion, complete, called, read, completeList]
  exact ⟨taken, True.intro⟩

theorem store_of_idle {e : Ended} (h : e.Failed ∨ e.Overtaken) : e.completion.store = e.store :=
  h.elim (·.completion_eq.1) (·.completion_eq.1)

def Begun.made (c : Begun) : String × Action :=
  (c.name, c.pending.action)

def Ended.report (e : Ended) : String × Except CallError Answer × List Notice :=
  (e.call.name, e.completion.result, e.completion.notices)

def Ended.result (e : Ended) : String × Except CallError Answer :=
  (e.call.name, e.completion.result)

namespace Run

def results (r : Run) : List (String × Except CallError Answer) :=
  r.ended.map Ended.result

def notices (r : Run) : List Notice :=
  r.ended.flatMap (·.completion.notices)

/-- The tokens that belong together in two runs: those of a list that is in both, and those that
were committed. -/
inductive Paired (r r' : Run) : Token → Token → Prop
  | list {name : String} {t t' : Token} (h : ⟨name, .list t⟩ ∈ r.begun)
      (h' : ⟨name, .list t'⟩ ∈ r'.begun) : Paired r r' t t'
  | committed : Paired r r' ⟨r.store.lists.committed⟩ ⟨r'.store.lists.committed⟩

/-- The second run is the first one without some calls. -/
structure Thinned (gone : String → Bool) (r r' : Run) : Prop where
  connections : r'.store.connections = r.store.connections
  published : r'.store.published = r.store.published
  begun : r'.begun.map Begun.made = (r.begun.filter fun c => !gone c.name).map Begun.made
  ended : r'.ended.map Ended.report = (r.ended.filter fun e => !gone e.call.name).map Ended.report
  order : ∀ {t t' u u'}, Paired r r' t t' → Paired r r' u u' → (t < u ↔ t' < u')

variable {gone : String → Bool} {r r' : Run} {name : String} {c c' : Begun}

theorem thinned_new : Thinned gone .new .new := by
  refine ⟨rfl, rfl, rfl, rfl, fun h k => ?_⟩
  cases h with
  | list h => cases h
  | committed =>
      cases k with
      | list k => cases k
      | committed => exact Iff.rfl

theorem Thinned.call? (h : Thinned gone r r') (kept : gone name = false) :
    (r'.call? name).map Begun.made = (r.call? name).map Begun.made := by
  have find (cs : List Begun) : (cs.find? (·.name = name)).map Begun.made =
      (cs.map Begun.made).find? (·.1 = name) := by
    rw [List.find?_map]
    rfl
  simp only [Run.call?, find, h.begun]
  rw [List.find?_map, List.find?_map, List.find?_filter]
  congr 2
  funext c
  by_cases named : c.name = name <;> simp [Begun.made, named, kept]

theorem Thinned.isEnded (h : Thinned gone r r') (kept : gone name = false) :
    r'.isEnded name = r.isEnded name := by
  have find (es : List Ended) : (es.any (·.call.name = name)) =
      (es.map Ended.report).any (·.1 = name) := by
    rw [List.any_map]
    rfl
  simp only [Run.isEnded, find, h.ended]
  rw [List.any_map, List.any_map, List.any_filter]
  congr 1
  funext e
  by_cases named : e.call.name = name <;> simp [Ended.report, named, kept]

theorem Thinned.waiting? (h : Thinned gone r r') (kept : gone name = false) :
    (r'.waiting? name).map Begun.made = (r.waiting? name).map Begun.made := by
  unfold Run.waiting?
  rw [h.isEnded kept]
  split
  · rfl
  · exact h.call? kept

theorem Thinned.kept (h : Thinned gone r r') (hc : c' ∈ r'.begun) : gone c'.name = false := by
  have : c'.made ∈ r'.begun.map Begun.made := List.mem_map_of_mem hc
  rw [h.begun] at this
  obtain ⟨c, hc, same⟩ := List.mem_map.mp this
  have named : c.name = c'.name := congrArg Prod.fst same
  simpa [named] using (List.mem_filter.mp hc).2

theorem Thinned.lists_le (h : Thinned gone r r') : r'.lists ≤ r.lists := by
  have count (cs : List Begun) :
      cs.countP (·.pending.action = .list) = (cs.map Begun.made).countP (·.2 = .list) := by
    rw [List.countP_map]
    rfl
  simp only [lists, count, h.begun]
  rw [List.countP_map, List.countP_map]
  exact List.filter_sublist.countP_le

theorem Thinned.begin_gone (h : Thinned gone r r') (left : gone name = true) (a : Action) :
    Thinned gone (r.beginCall name a) r' := by
  have sub {t t'} (paired : Paired (r.beginCall name a) r' t t') : Paired r r' t t' := by
    cases paired with
    | committed =>
        rw [committed_beginCall]
        exact .committed
    | list hc hc' =>
        obtain hc | hc := List.mem_append.mp hc
        · exact .list hc hc'
        · obtain ⟨rfl, -⟩ := Begun.mk.inj (List.mem_singleton.mp hc)
          exact absurd (h.kept hc') (by simp [left])
  refine ⟨?_, ?_, ?_, h.ended, fun p q => h.order (sub p) (sub q)⟩
  · rw [h.connections, connections_beginCall]
  · rw [h.published, published_beginCall]
  · simp [beginCall, h.begun, left]

theorem Paired.le_lists (o : Ordered r) (o' : Ordered r') {t t' : Token}
    (paired : Paired r r' t t') : t.value.toNat ≤ r.lists ∧ t'.value.toNat ≤ r'.lists := by
  cases paired with
  | committed => exact ⟨o.committed, o'.committed⟩
  | list hc hc' => exact ⟨(o.issued _ hc _ rfl).2, (o'.issued _ hc' _ rfl).2⟩

/-- A call that begins in both runs adds one pair at most, of the newest tokens. -/
theorem Paired.of_beginCall (fresh : r.call? name = none) (fresh' : r'.call? name = none)
    {a : Action} {t t' : Token} (paired : Paired (r.beginCall name a) (r'.beginCall name a) t t') :
    Paired r r' t t' ∨ (r.store.begin a).1 = .list t ∧ (r'.store.begin a).1 = .list t' := by
  cases paired with
  | committed =>
      rw [committed_beginCall, committed_beginCall]
      exact .inl .committed
  | list hc hc' =>
      obtain hc | hc := List.mem_append.mp hc <;> obtain hc' | hc' := List.mem_append.mp hc'
      · exact .inl (.list hc hc')
      · obtain ⟨named, -⟩ := Begun.mk.inj (List.mem_singleton.mp hc')
        exact absurd named (name_ne_of_fresh fresh hc)
      · obtain ⟨named, -⟩ := Begun.mk.inj (List.mem_singleton.mp hc)
        exact absurd named (name_ne_of_fresh fresh' hc')
      · obtain ⟨-, issued⟩ := Begun.mk.inj (List.mem_singleton.mp hc)
        obtain ⟨-, issued'⟩ := Begun.mk.inj (List.mem_singleton.mp hc')
        exact .inr ⟨issued.symm, issued'.symm⟩

theorem Thinned.begin_kept (h : Thinned gone r r') (kept : gone name = false) (a : Action)
    (few : (r.beginCall name a).lists < 2 ^ 64) (fresh : r.call? name = none)
    (fresh' : r'.call? name = none) (o : Ordered r) (o' : Ordered r') :
    Thinned gone (r.beginCall name a) (r'.beginCall name a) := by
  have few' : (r'.beginCall name a).lists < 2 ^ 64 := by
    have fewer := h.lists_le
    rw [lists_beginCall] at few ⊢
    omega
  obtain ⟨-, next⟩ := issued_beginCall name a few o.latest
  obtain ⟨-, next'⟩ := issued_beginCall name a few' o'.latest
  refine ⟨?_, ?_, ?_, h.ended, fun p q => ?_⟩
  · rw [connections_beginCall, connections_beginCall, h.connections]
  · rw [published_beginCall, published_beginCall, h.published]
  · simp [beginCall, h.begun, kept, Begun.made, action_begin]
  · rw [Token.lt_iff, Token.lt_iff]
    -- A new pair stands above all pairs so far, on both sides.
    obtain p | ⟨t, t'⟩ := p.of_beginCall fresh fresh' <;>
      obtain q | ⟨u, u'⟩ := q.of_beginCall fresh fresh'
    · exact h.order p q
    · have below := p.le_lists o o'
      have above := next _ u
      have above' := next' _ u'
      omega
    · have below := q.le_lists o o'
      have above := next _ t
      have above' := next' _ t'
      omega
    · have same := next _ t
      have same' := next' _ t'
      have := next _ u
      have := next' _ u'
      omega

theorem Thinned.end_gone (h : Thinned gone r r') (left : gone c.name = true) (reply : Reply)
    (idle : (r.endCall c reply).store = r.store) : Thinned gone (r.endCall c reply) r' := by
  have sub {t t'} (paired : Paired (r.endCall c reply) r' t t') : Paired r r' t t' := by
    cases paired with
    | committed =>
        rw [idle]
        exact .committed
    | list hc hc' => exact .list hc hc'
  refine ⟨?_, ?_, h.begun, ?_, fun p q => h.order (sub p) (sub q)⟩
  · rw [h.connections, idle]
  · rw [h.published, idle]
  · simp [endCall, h.ended, left]

/-- Two stores agree if they know and publish the same, and have committed tokens that belong
together. -/
structure Agree (r r' : Run) (s s' : Store) : Prop where
  connections : s'.connections = s.connections
  published : s'.published = s.published
  committed : Paired r r' ⟨s.lists.committed⟩ ⟨s'.lists.committed⟩

theorem Thinned.agree (h : Thinned gone r r') : Agree r r' r.store r'.store :=
  ⟨h.connections, h.published, .committed⟩

theorem Thinned.agree_update (h : Thinned gone r r') (cs : List Connection) :
    Agree r r' (r.store.take (.update cs)) (r'.store.take (.update cs)) := by
  refine ⟨?_, ?_, .committed⟩
  · simp only [take, applyUpdate, apply, h.connections]
  · simp only [take, applyUpdate, apply, h.connections, h.published]

theorem Thinned.agree_list (h : Thinned gone r r') {t t' : Token} (paired : Paired r r' t t')
    (cs : List Connection) :
    Agree r r' (r.store.take (.list t cs)) (r'.store.take (.list t' cs)) := by
  have same : r.store.lists.committed < t.value ↔ r'.store.lists.committed < t'.value :=
    h.order .committed paired
  rw [take_list, take_list]
  by_cases newer : r.store.lists.committed < t.value
  · rw [if_pos newer, if_pos (same.mp newer)]
    exact ⟨rfl, congrArg (Feed.publish · cs) h.published, paired⟩
  · rw [if_neg newer, if_neg (mt same.mpr newer)]
    exact h.agree

theorem Thinned.agree_endCall (h : Thinned gone r r') (hc : c ∈ r.begun) (hc' : c' ∈ r'.begun)
    (same : c'.made = c.made) (reply : Reply) :
    Agree r r' (r.endCall c reply).store (r'.endCall c' reply).store := by
  have named : c'.name = c.name := congrArg Prod.fst same
  have action : c.pending.action = c'.pending.action := (congrArg Prod.snd same).symm
  rw [store_endCall, store_endCall]
  obtain ⟨brought, noList⟩ | ⟨t, t', cs, brought, brought'⟩ := success?_cases action reply
  · rw [← brought]
    cases hx : c.pending.success? reply with
    | none => exact h.agree
    | some x =>
        cases x with
        | list t cs => exact absurd hx (noList t cs)
        | update cs => exact h.agree_update cs
  · have paired : Paired r r' t t' := by
      cases c
      cases c'
      cases named
      cases list_of_success? brought
      cases list_of_success? brought'
      exact .list hc hc'
    rw [brought, brought']
    exact h.agree_list paired cs

theorem Thinned.end_kept (h : Thinned gone r r') (kept : gone c.name = false)
    (hc : c ∈ r.begun) (hc' : c' ∈ r'.begun) (same : c'.made = c.made) (reply : Reply) :
    Thinned gone (r.endCall c reply) (r'.endCall c' reply) := by
  have agree := h.agree_endCall hc hc' same reply
  have sub {t t'} (paired : Paired (r.endCall c reply) (r'.endCall c' reply) t t') :
      Paired r r' t t' := by
    cases paired with
    | committed => exact agree.committed
    | list hc hc' => exact .list hc hc'
  refine ⟨agree.connections, agree.published, h.begun, ?_, fun p q => h.order (sub p) (sub q)⟩
  have named : c'.name = c.name := congrArg Prod.fst same
  have reported := report_complete (congrArg Prod.snd same) r'.store r.store reply
  simp [endCall, h.ended, kept, Ended.report, Ended.completion, named, reported]

theorem Thinned.step_gone {e : Event} (h : Thinned gone r r') (left : gone e.name = true)
    (idle : ∀ f ∈ (r.step e).ended, gone f.call.name = true → f.completion.store = f.store) :
    Thinned gone (r.step e) r' := by
  obtain same | ⟨name, a, rfl, -, stepped⟩ | ⟨c, reply, rfl, -, stepped⟩ := r.step_cases e
  · rwa [same]
  · rw [stepped]
    exact h.begin_gone left a
  · rw [stepped] at idle ⊢
    exact h.end_gone left reply (idle ⟨c, reply, r.store⟩ (by simp [endCall]) left)

theorem Thinned.step_kept {e : Event} (h : Thinned gone r r') (kept : gone e.name = false)
    (few : (r.step e).lists < 2 ^ 64) (o : Ordered r) (o' : Ordered r') :
    Thinned gone (r.step e) (r'.step e) := by
  cases e with
  | begins name a =>
      have same : (r'.call? name).map Begun.made = (r.call? name).map Begun.made := h.call? kept
      simp only [step] at few ⊢
      cases hc : r.call? name with
      | some c =>
          rw [hc] at same
          obtain ⟨c', hc', -⟩ := Option.map_eq_some_iff.mp same
          simpa [hc'] using h
      | none =>
          rw [hc] at same few
          have hc' : r'.call? name = none := Option.map_eq_none_iff.mp same
          simp only [hc', Option.isSome_none, Bool.false_eq_true, if_false] at few ⊢
          exact h.begin_kept kept a few hc hc' o o'
  | ends name reply =>
      have same : (r'.waiting? name).map Begun.made = (r.waiting? name).map Begun.made :=
        h.waiting? kept
      simp only [step]
      cases hc : r.waiting? name with
      | none =>
          rw [hc] at same
          simpa only [Option.map_eq_none_iff.mp same] using h
      | some c =>
          rw [hc] at same
          obtain ⟨c', hc', made⟩ := Option.map_eq_some_iff.mp same
          obtain ⟨rfl, begun, -⟩ := name_of_waiting? hc
          obtain ⟨-, begun', -⟩ := name_of_waiting? hc'
          simp only [hc']
          exact h.end_kept kept begun begun' made reply

theorem thinned_foldl (es : List Event) (h : Thinned gone r r') (o : Ordered r) (o' : Ordered r')
    (few : (es.foldl step r).lists < 2 ^ 64)
    (idle : ∀ f ∈ (es.foldl step r).ended, gone f.call.name = true →
      f.completion.store = f.store) :
    Thinned gone (es.foldl step r) ((es.filter fun e => !gone e.name).foldl step r') := by
  induction es generalizing r r' with
  | nil => exact h
  | cons e es ih =>
      -- The first run makes every step, the second one only those of the calls that stay.
      have fewer := Nat.lt_of_le_of_lt (lists_le_foldl es (r.step e)) few
      have next := ordered_foldl [e] fewer o
      cases left : gone e.name with
      | true =>
          rw [List.filter_cons_of_neg (by simp [left])]
          refine ih (h.step_gone left fun f hf => idle f ?_) next o' few idle
          exact ended_subset_foldl es (r.step e) hf
      | false =>
          rw [List.filter_cons_of_pos (by simp [left])]
          have stepped := h.step_kept left fewer o o'
          have fewer' : (r'.step e).lists < 2 ^ 64 := Nat.lt_of_le_of_lt stepped.lists_le fewer
          exact ih stepped next (ordered_foldl [e] fewer' o') few idle

end Run

/-- Without some calls that failed or were overtaken, a run ends with the same connections, has
published the same, and has begun and completed the other calls in the same way. Of the notices
only the one is missing that each failed call gave. -/
theorem run_without (gone : String → Bool) (es : List Event) (few : (run es).lists < 2 ^ 64)
    (idle : ∀ e ∈ (run es).ended, gone e.call.name = true → e.Failed ∨ e.Overtaken) :
    let r := run es
    let r' := run (es.filter fun e => !gone e.name)
    let others := r.ended.filter fun e => !gone e.call.name
    r'.store.connections = r.store.connections ∧
    r'.store.published = r.store.published ∧
    r'.begun.map Begun.made = (r.begun.filter fun c => !gone c.name).map Begun.made ∧
    r'.results = others.map Ended.result ∧
    r'.notices = others.flatMap (·.completion.notices) ∧
    ∀ e ∈ r.ended, gone e.call.name = true →
      (e.Failed ∧ ∃ title text, e.completion.notices = [.failure title text]) ∨
      (e.Overtaken ∧ e.completion.notices = []) := by
  intro r r' others
  have h : r.Thinned gone r' :=
    Run.thinned_foldl es Run.thinned_new Run.ordered_new Run.ordered_new few
      fun e he left => store_of_idle (idle e he left)
  refine ⟨h.connections, h.published, h.begun, ?_, ?_, fun e he left => ?_⟩
  · have same := congrArg (List.map fun x => (x.1, x.2.1)) h.ended
    rwa [List.map_map, List.map_map] at same
  · have same := congrArg (List.flatMap fun x => x.2.2) h.ended
    rwa [List.flatMap_map, List.flatMap_map] at same
  · exact (idle e he left).imp (fun f => ⟨f, f.completion_eq.2⟩) fun o => ⟨o, o.completion_eq.2⟩

/-- An update fails and a list is overtaken; the list that stays has the token of the other one
when they are gone. -/
theorem run_without_failed_and_overtaken :
    let gone (name : String) : Bool := name == "old" || name == "bad"
    let es : List Event :=
      [.begins "old" .list, .begins "bad" (.assignStream ⟨"A", ["p"]⟩), .begins "new" .list,
        .ends "new" (.ok (.arr [.obj [("stream_id", .str "A")]])), .ends "bad" (.ok .null),
        .ends "old" (.ok (.arr []))]
    let r := run es
    let r' := run (es.filter fun e => !gone e.name)
    r.lists < 2 ^ 64 ∧
    (∀ e ∈ r.ended, gone e.call.name = true → e.Failed ∨ e.Overtaken) ∧
    r'.store.connections = r.store.connections ∧
    r'.store.published = r.store.published ∧
    r'.store.lists ≠ r.store.lists := by
  intro gone es r r'
  have few : r.lists < 2 ^ 64 := by decide
  have idle : ∀ e ∈ r.ended, gone e.call.name = true → e.Failed ∨ e.Overtaken := by
    have ended : r.ended =
        [⟨⟨"new", _⟩, _, _⟩, ⟨⟨"bad", _⟩, _, _⟩, ⟨⟨"old", _⟩, _, _⟩] := rfl
    intro e he left
    simp only [ended, List.mem_cons, List.not_mem_nil, or_false] at he
    obtain rfl | rfl | rfl := he
    · cases left
    · exact .inl ⟨_, rfl⟩
    · exact .inr ⟨_, _, rfl, rfl, rfl⟩
  obtain ⟨connections, published, -⟩ := run_without gone es few idle
  exact ⟨few, idle, connections, published, by decide⟩

end Store
end StreamPipelines
