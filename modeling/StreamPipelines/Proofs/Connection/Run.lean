import StreamPipelines.Connection.Store
import StreamPipelines.Proofs.Sequencer

/-!
Runs of a store. Calls have names: a call begins once and is completed at most once, at any later
time and by any reply, so that the calls of a run overlap in every possible way. Events that fit
no call are passed over. A run keeps the calls that were begun and those that were completed,
each in the order in which this happened.

The main statements: the tokens of the lists are in the order in which the lists began, and a
completed call either succeeds, and its answer is taken into the store, or leaves the store alone.
-/

namespace StreamPipelines
namespace Store

/-- What a successful call brings to the store. -/
inductive Success where
  | list (token : Token) (cs : List Connection)
  | update (cs : List Connection)

/-- What the call brings with this reply; nothing if it fails. -/
def Pending.success? : Pending → Reply → Option Success
  | .list token, reply => (Store.list.read reply).toOption.map (.list token)
  | .assignStream a, reply => ((Store.assignStream a).read reply).toOption.map fun c => .update [c]
  | .assignPipeline a, reply => ((Store.assignPipeline a).read reply).toOption.map .update

/-- A list that succeeds is not worth a notice. -/
def Success.notices : Success → List Notice
  | .list _ _ => []
  | .update _ => [updated]

def take (s : Store) : Success → Store
  | .list token cs => s.applyList token cs
  | .update cs => s.applyUpdate cs

/-- A call either fails, gives one notice of it and leaves the store alone, or the store takes what
the call brings. -/
theorem complete_cases (s : Store) (p : Pending) (reply : Reply) :
    (∃ cause title text, p.success? reply = none ∧
      s.complete p reply = ⟨.error cause, [.failure title text], s⟩) ∨
    ∃ x answer, p.success? reply = some x ∧
      s.complete p reply = ⟨.ok answer, x.notices, s.take x⟩ := by
  cases p with
  | list token =>
      simp only [complete, Pending.success?]
      cases list.read reply with
      | error e => exact .inl ⟨e, _, _, rfl, rfl⟩
      | ok cs => exact .inr ⟨.list token cs, _, rfl, rfl⟩
  | assignStream a =>
      simp only [complete, Pending.success?]
      cases (assignStream a).read reply with
      | error e => exact .inl ⟨e, _, _, rfl, rfl⟩
      | ok c => exact .inr ⟨.update [c], _, rfl, rfl⟩
  | assignPipeline a =>
      simp only [complete, Pending.success?]
      cases (assignPipeline a).read reply with
      | error e => exact .inl ⟨e, _, _, rfl, rfl⟩
      | ok cs => exact .inr ⟨.update cs, _, rfl, rfl⟩

theorem take_list (s : Store) (token : Token) (cs : List Connection) :
    s.take (.list token cs) =
      if s.lists.committed < token.value then
        ⟨some cs, ⟨s.lists.latest, token.value⟩, s.published.publish cs⟩
      else s := by
  simp only [take, applyList, Sequencer.tryCommit]
  by_cases newer : s.lists.committed < token.value
  · simp only [newer, if_true, apply]
  · simp only [newer, if_false, Bool.false_eq_true]

theorem list_of_success? {p : Pending} {reply : Reply} {t : Token} {cs : List Connection}
    (h : p.success? reply = some (.list t cs)) : p = .list t := by
  cases p with
  | list token =>
      obtain ⟨ds, -, hd⟩ := Option.map_eq_some_iff.mp h
      cases hd
      rfl
  | assignStream a | assignPipeline a =>
      obtain ⟨ds, -, hd⟩ := Option.map_eq_some_iff.mp h
      cases hd

theorem committed_take (s : Store) (x : Success) :
    (s.take x).lists.committed = s.lists.committed ∨
      ∃ t cs, x = .list t cs ∧ (s.take x).lists.committed = t.value := by
  cases x with
  | list token cs =>
      rw [take_list]
      split
      · exact .inr ⟨token, cs, rfl, rfl⟩
      · exact .inl rfl
  | update cs => exact .inl rfl

theorem lists_latest_take (s : Store) (x : Success) :
    (s.take x).lists.latest = s.lists.latest := by
  cases x with
  | list token cs =>
      rw [take_list]
      split <;> rfl
  | update cs => rfl

def Pending.action : Pending → Action
  | .list _ => .list
  | .assignStream a => .assignStream a
  | .assignPipeline a => .assignPipeline a

theorem action_begin (s : Store) (a : Action) : (s.begin a).1.action = a := by
  cases a <;> rfl

inductive Event where
  | begins (name : String) (a : Action)
  | ends (name : String) (reply : Reply)

def Event.name : Event → String
  | .begins name _ | .ends name _ => name

structure Begun where
  name : String
  pending : Pending

/-- A call that was completed: the reply that it got, and the store that the reply met. -/
structure Ended where
  call : Begun
  reply : Reply
  store : Store

def Ended.completion (e : Ended) : Completion :=
  e.store.complete e.call.pending e.reply

def Ended.success? (e : Ended) : Option Success :=
  e.call.pending.success? e.reply

structure Run where
  store : Store
  begun : List Begun
  ended : List Ended

namespace Run

def new : Run :=
  ⟨.new, [], []⟩

def call? (r : Run) (name : String) : Option Begun :=
  r.begun.find? (·.name = name)

def isEnded (r : Run) (name : String) : Bool :=
  r.ended.any (·.call.name = name)

/-- The call of this name, if it waits for its reply. -/
def waiting? (r : Run) (name : String) : Option Begun :=
  if r.isEnded name then none else r.call? name

def beginCall (r : Run) (name : String) (a : Action) : Run :=
  let (p, store) := r.store.begin a
  ⟨store, r.begun ++ [⟨name, p⟩], r.ended⟩

def endCall (r : Run) (c : Begun) (reply : Reply) : Run :=
  let e : Ended := ⟨c, reply, r.store⟩
  ⟨e.completion.store, r.begun, r.ended ++ [e]⟩

def step (r : Run) : Event → Run
  | .begins name a => if (r.call? name).isSome then r else r.beginCall name a
  | .ends name reply =>
      match r.waiting? name with
      | none => r
      | some c => r.endCall c reply

/-- What the successful calls brought, in the order of their completion. -/
def successes (r : Run) : List Success :=
  r.ended.filterMap Ended.success?

def lists (r : Run) : Nat :=
  r.begun.countP (·.pending.action = .list)

end Run

def run (es : List Event) : Run :=
  es.foldl Run.step .new

namespace Run

variable {r : Run} {c : Begun} {name : String} {e : Event}

theorem name_of_waiting? (h : r.waiting? name = some c) :
    c.name = name ∧ c ∈ r.begun ∧ ∀ e ∈ r.ended, e.call.name ≠ name := by
  unfold waiting? at h
  split at h
  · cases h
  · rename_i notEnded
    refine ⟨by simpa using List.find?_some h, List.mem_of_find?_eq_some h, fun e he same => ?_⟩
    exact notEnded (List.any_eq_true.mpr ⟨e, he, by simpa using same⟩)

theorem name_ne_of_fresh (fresh : r.call? name = none) (hc : c ∈ r.begun) : c.name ≠ name := by
  simpa using List.find?_eq_none.mp fresh c hc

/-- A step begins a call, completes one that waits, or does nothing. -/
theorem step_cases (r : Run) (e : Event) :
    r.step e = r ∨
    (∃ name a, e = .begins name a ∧ r.call? name = none ∧ r.step e = r.beginCall name a) ∨
    ∃ c reply, e = .ends c.name reply ∧ r.waiting? c.name = some c ∧
      r.step e = r.endCall c reply := by
  cases e with
  | begins name a =>
      simp only [step]
      split
      · exact .inl rfl
      · rename_i fresh
        exact .inr (.inl ⟨name, a, rfl, by simpa using fresh, rfl⟩)
  | ends name reply =>
      simp only [step]
      cases h : r.waiting? name with
      | none => exact .inl rfl
      | some c =>
          obtain ⟨rfl, -, -⟩ := name_of_waiting? h
          exact .inr (.inr ⟨c, reply, rfl, h, rfl⟩)

theorem step_ends (h : r.waiting? name = some c) (reply : Reply) :
    r.step (.ends name reply) = r.endCall c reply := by
  simp only [step, h]

theorem step_begins (fresh : r.call? name = none) (a : Action) :
    r.step (.begins name a) = r.beginCall name a := by
  simp only [step, fresh, Option.isSome_none, Bool.false_eq_true, if_false]

theorem waiting?_beginCall_self (fresh : r.call? name = none)
    (known : ∀ e ∈ r.ended, e.call ∈ r.begun) (a : Action) :
    (r.beginCall name a).waiting? name = some ⟨name, (r.store.begin a).1⟩ := by
  have notEnded : (r.beginCall name a).isEnded name = false := by
    simp only [isEnded, List.any_eq_false, decide_eq_true_eq]
    exact fun e he => name_ne_of_fresh fresh (known e he)
  rw [waiting?, notEnded, if_neg (by decide), call?, beginCall, List.find?_append,
    show r.begun.find? (·.name = name) = none from fresh]
  simp

/-- A call that waits goes on waiting while others begin. -/
theorem waiting?_beginCall (waits : r.waiting? name = some c) (other : String) (a : Action) :
    (r.beginCall other a).waiting? name = some c := by
  rw [waiting?] at waits ⊢
  split at waits
  · cases waits
  · rename_i notEnded
    rw [if_neg (show ¬ (r.beginCall other a).isEnded name = true from notEnded), call?, beginCall,
      List.find?_append, show r.begun.find? (·.name = name) = some c from waits, Option.some_or]

theorem waiting?_endCall (other : c.name ≠ name) (reply : Reply) :
    (r.endCall c reply).waiting? name = r.waiting? name := by
  have same : (r.endCall c reply).isEnded name = r.isEnded name := by
    simp [isEnded, endCall, other]
  rw [waiting?, waiting?, same]
  rfl

theorem lists_beginCall (r : Run) (name : String) (a : Action) :
    (r.beginCall name a).lists = r.lists + if a = .list then 1 else 0 := by
  simp [beginCall, lists, List.countP_append, action_begin]

theorem lists_le_step (r : Run) (e : Event) : r.lists ≤ (r.step e).lists := by
  obtain h | ⟨name, a, -, -, h⟩ | ⟨c, reply, -, -, h⟩ := r.step_cases e
  · exact Nat.le_of_eq (congrArg lists h).symm
  · rw [h, lists_beginCall]
    exact Nat.le_add_right _ _
  · exact Nat.le_of_eq (congrArg lists h).symm

theorem lists_le_foldl (es : List Event) (r : Run) : r.lists ≤ (es.foldl step r).lists := by
  induction es generalizing r with
  | nil => exact Nat.le_refl _
  | cons e es ih => exact Nat.le_trans (r.lists_le_step e) (ih _)

/-- What every begin and every completion keeps, a run keeps. -/
theorem foldl_kept {I : Run → Prop}
    (begins : ∀ r name a, r.call? name = none → I r → I (r.beginCall name a))
    (ends : ∀ r c reply, r.waiting? c.name = some c → I r → I (r.endCall c reply))
    (es : List Event) (r : Run) (h : I r) : I (es.foldl step r) := by
  induction es generalizing r with
  | nil => exact h
  | cons e es ih =>
      refine ih (r.step e) ?_
      obtain same | ⟨name, a, -, fresh, stepped⟩ | ⟨c, reply, -, waits, stepped⟩ := r.step_cases e
      · rwa [same]
      · rw [stepped]
        exact begins r name a fresh h
      · rw [stepped]
        exact ends r c reply waits h

theorem call_mem_begun (es : List Event) : ∀ e ∈ (run es).ended, e.call ∈ (run es).begun := by
  refine foldl_kept (I := fun r => ∀ e ∈ r.ended, e.call ∈ r.begun) ?_ ?_ es .new nofun
  · exact fun r name a _ h e he => List.mem_append_left _ (h e he)
  · intro r c reply waits h e he
    obtain he | he := List.mem_append.mp he
    · exact h e he
    · cases List.mem_singleton.mp he
      exact (name_of_waiting? waits).2.1

/-- The same, if the tokens suffice. -/
theorem foldl_induction {I : Run → Prop}
    (begins : ∀ r name a, r.call? name = none → (r.beginCall name a).lists < 2 ^ 64 → I r →
      I (r.beginCall name a))
    (ends : ∀ r c reply, r.waiting? c.name = some c → I r → I (r.endCall c reply))
    (es : List Event) (r : Run) (few : (es.foldl step r).lists < 2 ^ 64) (h : I r) :
    I (es.foldl step r) := by
  refine foldl_kept (I := fun r => r.lists < 2 ^ 64 → I r) ?_ ?_ es r (fun _ => h) few
  · intro r name a fresh h few
    have fewer : r.lists < 2 ^ 64 := by
      rw [lists_beginCall] at few
      omega
    exact begins r name a fresh few (h fewer)
  · intro r c reply waits h few
    exact ends r c reply waits (h few)

/-- The lists of a run hold the tokens from one up to their number, in the order in which they
began; nothing is completed or committed that was not begun. -/
structure Ordered (r : Run) : Prop where
  latest : r.store.lists.latest.toNat = r.lists
  committed : r.store.lists.committed.toNat ≤ r.lists
  tokens : r.begun.Pairwise fun c d => ∀ t u, c.pending = .list t → d.pending = .list u → t < u
  issued : ∀ c ∈ r.begun, ∀ t, c.pending = .list t → 0 < t.value.toNat ∧ t.value.toNat ≤ r.lists
  names : r.begun.Pairwise fun c d => c.name ≠ d.name
  ended : ∀ e ∈ r.ended, e.call ∈ r.begun

theorem ordered_new : Ordered .new :=
  ⟨rfl, Nat.le_refl _, .nil, nofun, .nil, nofun⟩

theorem issued_beginCall (name : String) (a : Action)
    (few : (r.beginCall name a).lists < 2 ^ 64) (h : r.store.lists.latest.toNat = r.lists) :
    (r.beginCall name a).store.lists.latest.toNat = (r.beginCall name a).lists ∧
      ∀ t, (r.store.begin a).1 = .list t →
        t.value.toNat = r.lists + 1 ∧ (r.beginCall name a).lists = r.lists + 1 := by
  have count := r.lists_beginCall name a
  cases a with
  | list =>
      simp only [if_true] at count
      have next := r.store.lists.toNat_issue r.lists h (count ▸ few)
      refine ⟨next.2.trans count.symm, fun t ht => ?_⟩
      cases ht
      exact ⟨next.1, count⟩
  | assignStream a | assignPipeline a => exact ⟨h.trans count.symm, nofun⟩

theorem connections_beginCall (r : Run) (name : String) (a : Action) :
    (r.beginCall name a).store.connections = r.store.connections := by
  cases a <;> rfl

theorem published_beginCall (r : Run) (name : String) (a : Action) :
    (r.beginCall name a).store.published = r.store.published := by
  cases a <;> rfl

theorem committed_beginCall (r : Run) (name : String) (a : Action) :
    (r.beginCall name a).store.lists.committed = r.store.lists.committed := by
  cases a <;> rfl

theorem ordered_beginCall (fresh : r.call? name = none) (a : Action)
    (few : (r.beginCall name a).lists < 2 ^ 64) (h : Ordered r) :
    Ordered (r.beginCall name a) := by
  obtain ⟨latest, next⟩ := issued_beginCall name a few h.latest
  have grows := (r.lists_beginCall name a).symm ▸ Nat.le_add_right r.lists _
  refine ⟨latest, ?_, ?_, ?_, ?_, fun e he => List.mem_append_left _ (h.ended e he)⟩
  · rw [committed_beginCall]
    exact Nat.le_trans h.committed grows
  · refine List.pairwise_append.mpr ⟨h.tokens, List.pairwise_singleton _ _, ?_⟩
    intro c hc d hd t u ht hu
    cases List.mem_singleton.mp hd
    have := (h.issued c hc t ht).2
    rw [Token.lt_iff, (next u hu).1]
    omega
  · intro c hc t ht
    obtain hc | hc := List.mem_append.mp hc
    · exact ⟨(h.issued c hc t ht).1, Nat.le_trans (h.issued c hc t ht).2 grows⟩
    · cases List.mem_singleton.mp hc
      have := next t ht
      omega
  · refine List.pairwise_append.mpr ⟨h.names, List.pairwise_singleton _ _, ?_⟩
    intro c hc d hd
    cases List.mem_singleton.mp hd
    exact name_ne_of_fresh fresh hc

theorem endCall_cases (r : Run) (c : Begun) (reply : Reply) :
    (c.pending.success? reply = none ∧ (r.endCall c reply).store = r.store ∧
      (r.endCall c reply).successes = r.successes) ∨
    ∃ x, c.pending.success? reply = some x ∧ (r.endCall c reply).store = r.store.take x ∧
      (r.endCall c reply).successes = r.successes ++ [x] := by
  obtain ⟨cause, title, text, failed, h⟩ | ⟨x, answer, succeeded, h⟩ :=
    r.store.complete_cases c.pending reply
  · refine .inl ⟨failed, ?_, ?_⟩
    · simp only [endCall, Ended.completion, h]
    · simp [endCall, successes, Ended.success?, failed]
  · refine .inr ⟨x, succeeded, ?_, ?_⟩
    · simp only [endCall, Ended.completion, h]
    · simp [endCall, successes, Ended.success?, succeeded]

theorem store_endCall (r : Run) (c : Begun) (reply : Reply) :
    (r.endCall c reply).store = ((c.pending.success? reply).map r.store.take).getD r.store := by
  obtain ⟨failed, store, -⟩ | ⟨x, succeeded, store, -⟩ := r.endCall_cases c reply
  · rw [store, failed]
    rfl
  · rw [store, succeeded]
    rfl

theorem step_successes (r : Run) (e : Event) :
    ((r.step e).successes = r.successes ∧
      (r.step e).store.connections = r.store.connections) ∨
    ∃ c reply x, r.waiting? c.name = some c ∧ c.pending.success? reply = some x ∧
      (r.step e).store = r.store.take x ∧ (r.step e).successes = r.successes ++ [x] := by
  obtain h | ⟨name, a, -, -, h⟩ | ⟨c, reply, -, waits, h⟩ := r.step_cases e
  · exact .inl ⟨by rw [h], by rw [h]⟩
  · exact .inl ⟨by rw [h]; rfl, by rw [h, connections_beginCall]⟩
  · rw [h]
    obtain ⟨-, store, successes⟩ | ⟨x, hx, store, successes⟩ := r.endCall_cases c reply
    · exact .inl ⟨successes, by rw [store]⟩
    · exact .inr ⟨c, reply, x, waits, hx, store, successes⟩

theorem ended_subset_foldl (es : List Event) (r : Run) : r.ended ⊆ (es.foldl step r).ended := by
  induction es generalizing r with
  | nil => exact fun _ h => h
  | cons e es ih =>
      refine fun f hf => ih (r.step e) ?_
      obtain h | ⟨name, a, -, -, h⟩ | ⟨c, reply, -, -, h⟩ := r.step_cases e
      · rwa [h]
      · rwa [h]
      · rw [h]
        exact List.mem_append_left _ hf

theorem successes_foldl (es : List Event) (r : Run) :
    ∃ since, (es.foldl step r).successes = r.successes ++ since := by
  induction es generalizing r with
  | nil => exact ⟨[], (List.append_nil _).symm⟩
  | cons e es ih =>
      obtain ⟨since, h⟩ := ih (r.step e)
      obtain ⟨same, -⟩ | ⟨-, -, x, -, -, -, more⟩ := r.step_successes e
      · exact ⟨since, by rw [List.foldl_cons, h, same]⟩
      · exact ⟨x :: since, by rw [List.foldl_cons, h, more, List.append_assoc]; rfl⟩

theorem ordered_endCall (waits : r.waiting? name = some c) (reply : Reply) (h : Ordered r) :
    Ordered (r.endCall c reply) := by
  obtain ⟨-, hc, -⟩ := name_of_waiting? waits
  have lists : (r.endCall c reply).store.lists.latest.toNat = r.lists ∧
      (r.endCall c reply).store.lists.committed.toNat ≤ r.lists := by
    obtain ⟨-, same, -⟩ | ⟨x, hx, taken, -⟩ := r.endCall_cases c reply
    · rw [same]
      exact ⟨h.latest, h.committed⟩
    · rw [taken]
      refine ⟨by rw [lists_latest_take, h.latest], ?_⟩
      obtain same | ⟨t, cs, rfl, newer⟩ := committed_take r.store x
      · rw [same]
        exact h.committed
      · rw [newer]
        exact (h.issued c hc t (list_of_success? hx)).2
  refine ⟨lists.1, lists.2, h.tokens, h.issued, h.names, fun e he => ?_⟩
  obtain he | he := List.mem_append.mp he
  · exact h.ended e he
  · cases List.mem_singleton.mp he
    exact hc

theorem ordered_foldl (es : List Event) (few : (es.foldl step r).lists < 2 ^ 64)
    (h : Ordered r) : Ordered (es.foldl step r) :=
  foldl_induction (fun _ _ a fresh few h => ordered_beginCall fresh a few h)
    (fun _ _ reply waits h => ordered_endCall waits reply h) es r few h

theorem ordered_run (es : List Event) (few : (run es).lists < 2 ^ 64) : Ordered (run es) :=
  ordered_foldl es few ordered_new

/-- A token belongs to one call. -/
theorem Ordered.call_eq (h : Ordered r) {c d : Begun} {t : Token} (hc : c ∈ r.begun)
    (hd : d ∈ r.begun) (ct : c.pending = .list t) (dt : d.pending = .list t) : c = d := by
  refine List.Pairwise.forall_of_forall_of_flip (R := fun c d =>
    c.pending = .list t → d.pending = .list t → c = d) ?_ ?_ ?_ hc hd ct dt
  · exact fun _ _ _ _ => rfl
  · exact h.tokens.imp fun lt ct dt => absurd (lt t t ct dt) t.lt_irrefl
  · exact h.tokens.imp fun lt ct dt => absurd (lt t t dt ct) t.lt_irrefl

/-- The token of a list that waits has brought nothing yet. -/
theorem Ordered.unseen (h : Ordered r) (waits : r.waiting? name = some c) {t : Token}
    (ct : c.pending = .list t) :
    0 < t.value.toNat ∧ ∀ ds, .list t ds ∉ r.successes := by
  obtain ⟨named, hc, notEnded⟩ := name_of_waiting? waits
  refine ⟨(h.issued c hc t ct).1, fun ds hd => ?_⟩
  obtain ⟨e, he, brought⟩ := List.mem_filterMap.mp hd
  have same := h.call_eq (h.ended e he) hc (list_of_success? brought) ct
  exact notEnded e he (same ▸ named)

end Run

theorem run_append (es later : List Event) : run (es ++ later) = later.foldl Run.step (run es) :=
  List.foldl_append

theorem run_ends {es : List Event} {name : String} {c : Begun}
    (waits : (run es).waiting? name = some c) (reply : Reply) :
    run (es ++ [.ends name reply]) = (run es).endCall c reply := by
  rw [run_append]
  exact Run.step_ends waits reply

end Store
end StreamPipelines
