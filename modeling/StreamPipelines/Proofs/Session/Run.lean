import Mathlib.Logic.Function.Basic
import StreamPipelines.Proofs.Connection.Run
import StreamPipelines.Proofs.Session.Step
import StreamPipelines.Proofs.Simulation.Run
import StreamPipelines.Proofs.Text.Digits

/-!
Runs of a session, seen from its store and from its view. A trace goes along with the steps and
notes what each of them is to the one and to the other. The main statement: the store of the session
is that of the run of the events noted for it, which sends the same requests and gives the same
answers, and the view is that of the run of the events noted for the view. What holds of all runs of
a store and of a view therefore holds of every session.
-/

namespace StreamPipelines
namespace Session

def run (stream : Stream) (steps : List Step) : Session :=
  steps.foldl (fun s e => (s.step e).session) (.new stream)

/-- Whether the step begins a call of the store. -/
def Step.beginsCall : Step → Bool
  | .perform (.store _) _ | .start _ (.store _) => true
  | _ => false

/-- A session, and what its steps have been to the store and to the view. -/
structure Trace where
  session : Session
  storeEvents : List Store.Event
  viewEvents : List View.Event
  /-- Under which names the calls of the store that are under way have begun there. A session may
  give a name to one call after the other, a run of the store may not. -/
  names : String → Option String
  /-- The numbers that the loads of the session have among all loads of the view. -/
  loads : List Nat
  /-- The requests of the calls of the store. -/
  requests : List Request
  /-- The results and notices of the calls of the store. -/
  answers : List (Result × List Notice)

namespace Trace

def new (stream : Stream) : Trace :=
  ⟨.new stream, [], [], fun _ => none, [], [], []⟩

/-- A name that no call of the store has had. -/
def fresh (t : Trace) : String :=
  Text.natText t.storeEvents.length

def storeEventsOf (t : Trace) : Step → List Store.Event
  | .perform (.store a) reply => [.begins t.fresh a, .ends t.fresh reply]
  | .start _ (.store a) => [.begins t.fresh a]
  | .finish name reply => (t.names name).toList.map (.ends · reply)
  | _ => []

def namesAfter (t : Trace) : Step → String → Option String
  | .start name (.store _) => Function.update t.names name (some t.fresh)
  | .start name _ | .finish name _ => Function.update t.names name none
  | _ => t.names

/-- Whether the step completes a call of the store. -/
def endsCall (t : Trace) : Step → Bool
  | .perform (.store _) _ => true
  | .finish name _ => (t.names name).isSome
  | _ => false

/-- The number of the next load of the view. -/
def nextLoad (t : Trace) : Nat :=
  (View.loaded t.viewEvents).length

def viewEventsOf (t : Trace) : Step → List View.Event
  | .beginLoad m => (m.or t.session.loaded).toList.map .loads
  | .complete load reply => Option.toList do
      let p ← t.session.loads[load]?
      let k ← t.loads[load]?
      return .completes k ((Simulation.call p.request).read reply)
  | .viewLoad m reply => (m.or t.session.loaded).toList.flatMap fun m =>
      let p := (t.session.view.beginLoad m).1
      [.loads m, .completes t.nextLoad ((Simulation.call p.request).read reply)]
  | _ => []

/-- A load that is completed at once gets no place among those of the session. -/
def loadsOf (t : Trace) : Step → List Nat
  | .beginLoad m => (m.or t.session.loaded).toList.map fun _ => t.nextLoad
  | _ => []

def step (t : Trace) (e : Step) : Trace :=
  let effect := t.session.step e
  { session := effect.session
    storeEvents := t.storeEvents ++ t.storeEventsOf e
    viewEvents := t.viewEvents ++ t.viewEventsOf e
    names := t.namesAfter e
    loads := t.loads ++ t.loadsOf e
    requests := t.requests ++ if e.beginsCall then effect.requests else []
    answers := t.answers ++ if t.endsCall e then [(effect.result, effect.notices)] else [] }

@[simp] theorem session_step (t : Trace) (e : Step) :
    (t.step e).session = (t.session.step e).session :=
  rfl

@[simp] theorem storeEvents_step (t : Trace) (e : Step) :
    (t.step e).storeEvents = t.storeEvents ++ t.storeEventsOf e :=
  rfl

@[simp] theorem loads_step (t : Trace) (e : Step) : (t.step e).loads = t.loads ++ t.loadsOf e :=
  rfl

@[simp] theorem requests_step (t : Trace) (e : Step) :
    (t.step e).requests =
      t.requests ++ if e.beginsCall then (t.session.step e).requests else [] :=
  rfl

@[simp] theorem answers_step (t : Trace) (e : Step) :
    (t.step e).answers = t.answers ++
      if t.endsCall e then [((t.session.step e).result, (t.session.step e).notices)] else [] :=
  rfl

def storeRun (t : Trace) : Store.Run :=
  Store.run t.storeEvents

def viewRun (stream : Stream) (t : Trace) : View.Run :=
  View.run stream t.viewEvents

theorem storeRun_step (t : Trace) (e : Step) :
    (t.step e).storeRun = (t.storeEventsOf e).foldl Store.Run.step t.storeRun :=
  Store.run_append t.storeEvents (t.storeEventsOf e)

theorem viewRun_step (stream : Stream) (t : Trace) (e : Step) :
    viewRun stream (t.step e) = (t.viewEventsOf e).foldl View.Run.step (viewRun stream t) :=
  List.foldl_append

end Trace

def trace (stream : Stream) (steps : List Step) : Trace :=
  steps.foldl Trace.step (.new stream)

theorem session_foldl (steps : List Step) (t : Trace) :
    (steps.foldl Trace.step t).session =
      steps.foldl (fun s e => (s.step e).session) t.session := by
  induction steps generalizing t with
  | nil => rfl
  | cons e steps ih => exact ih (t.step e)

/-- What is under way with a name of the session, and which call of the run it is, if it is one of
the store. -/
inductive IsCall (r : Store.Run) : Option Pending → Option String → Prop
  | store {name : String} {p : Store.Pending} (waits : r.waiting? name = some ⟨name, p⟩) :
      IsCall r (some (.store p)) (some name)
  | simulate (s : SimulationRequest) : IsCall r (some (.simulate s)) none
  | load (index id : String) : IsCall r (some (.load index id)) none
  | none : IsCall r none none

theorem IsCall.mono {r r' : Store.Run} {p : Option Pending} {called : Option String}
    (h : IsCall r p called)
    (kept : ∀ name c, called = some name → r.waiting? name = some c → r'.waiting? name = some c) :
    IsCall r' p called := by
  cases h with
  | store waits => exact .store (kept _ _ rfl waits)
  | simulate s => exact .simulate s
  | load index id => exact .load index id
  | none => exact .none

/-- Each call of the store that is under way waits in the run, under a name of its own. -/
structure IsNamed (r : Store.Run) (running : List (String × Pending))
    (names : String → Option String) : Prop where
  calls : ∀ name, IsCall r (running.lookup name) (names name)
  apart : ∀ name name' called, names name = some called → names name' = some called → name = name'

section

variable {r : Store.Run} {running : List (String × Pending)} {names : String → Option String}
variable (h : IsNamed r running names)
include h

theorem IsNamed.beginCall (called : String) (a : Store.Action) :
    IsNamed (r.beginCall called a) running names :=
  ⟨fun name => (h.calls name).mono fun _ _ _ waits => Store.Run.waiting?_beginCall waits called a,
    h.apart⟩

theorem IsNamed.endCall {c : Store.Begun} (unused : ∀ name, names name ≠ some c.name)
    (reply : Reply) : IsNamed (r.endCall c reply) running names := by
  refine ⟨fun name => (h.calls name).mono fun called d named waits => ?_, h.apart⟩
  have other : c.name ≠ called := fun same => unused name (same ▸ named)
  rw [Store.Run.waiting?_endCall other, waits]

theorem IsNamed.ne_of_fresh {called : String} (fresh : r.call? called = none) (name : String) :
    names name ≠ some called := by
  intro named
  have call := h.calls name
  rw [named] at call
  generalize running.lookup name = p at call
  cases call with
  | store waits =>
      exact Store.Run.name_ne_of_fresh fresh (Store.Run.name_of_waiting? waits).2.1 rfl

theorem IsNamed.apart_update {called : Option String}
    (unused : ∀ n, called = some n → ∀ other, names other ≠ some n) (name : String) :
    ∀ a b n, Function.update names name called a = some n →
      Function.update names name called b = some n → a = b := by
  intro a b n ha hb
  rw [Function.update_apply] at ha hb
  split at ha <;> split at hb
  · rename_i isName isName'
    rw [isName, isName']
  · exact absurd hb (unused n ha b)
  · exact absurd ha (unused n hb a)
  · exact h.apart a b n ha hb

/-- The name of a call covers that of an older one. -/
theorem IsNamed.start {p : Pending} {called : Option String} (call : IsCall r (some p) called)
    (unused : ∀ n, called = some n → ∀ other, names other ≠ some n) (name : String) :
    IsNamed r ((name, p) :: running) (Function.update names name called) := by
  refine ⟨fun other => ?_, h.apart_update unused name⟩
  rw [lookup_cons_ite, Function.update_apply]
  split
  · exact call
  · exact h.calls other

theorem IsNamed.forget (name : String) :
    IsNamed r (running.filter (·.1 ≠ name)) (Function.update names name none) := by
  refine ⟨fun other => ?_, h.apart_update (by simp) name⟩
  rw [lookup_filter_ne, Function.update_apply]
  split
  · exact .none
  · exact h.calls other

end

/-- What a session answers when a call of the store is completed. -/
def answerOf (e : Store.Ended) : Result × List Notice :=
  (.answer (e.completion.result.map .store), e.completion.notices)

namespace Trace

/-- So far the run has done what the session did to its store. -/
structure FollowsStore (t : Trace) (r : Store.Run) : Prop where
  store : t.session.store = r.store
  named : IsNamed r t.session.running t.names
  earlier : ∀ c ∈ r.begun, ∃ k < t.storeEvents.length, c.name = Text.natText k
  requests : t.requests = r.begun.map (·.pending.request)
  answers : t.answers = r.ended.map answerOf

theorem followsStore_new (stream : Stream) : FollowsStore (new stream) (new stream).storeRun where
  store := rfl
  named := ⟨fun _ => .none, by simp [new]⟩
  earlier := by simp [new, storeRun, Store.run, Store.Run.new]
  requests := rfl
  answers := rfl

variable {t : Trace}

namespace FollowsStore

variable (h : t.FollowsStore t.storeRun)
include h

theorem call?_fresh : t.storeRun.call? t.fresh = none := by
  refine List.find?_eq_none.mpr fun c hc same => ?_
  obtain ⟨k, lt, named⟩ := h.earlier c hc
  have last : k = t.storeEvents.length :=
    Text.natText_inj (named.symm.trans (of_decide_eq_true same))
  omega

theorem waiting?_fresh (a : Store.Action) :
    (t.storeRun.beginCall t.fresh a).waiting? t.fresh =
      some ⟨t.fresh, (t.storeRun.store.begin a).1⟩ :=
  Store.Run.waiting?_beginCall_self h.call?_fresh (Store.Run.call_mem_begun t.storeEvents) a

theorem earlier_beginCall (a : Store.Action) {n : Nat} (more : t.storeEvents.length < n) :
    ∀ c ∈ (t.storeRun.beginCall t.fresh a).begun, ∃ k < n, c.name = Text.natText k := by
  intro c hc
  obtain hc | hc := List.mem_append.mp hc
  · obtain ⟨k, lt, named⟩ := h.earlier c hc
    exact ⟨k, Nat.lt_trans lt more, named⟩
  · cases List.mem_singleton.mp hc
    exact ⟨_, more, rfl⟩

theorem perform (a : Store.Action) (reply : Reply) :
    FollowsStore (t.step (.perform (.store a) reply))
      (t.step (.perform (.store a) reply)).storeRun := by
  have unused := h.named.ne_of_fresh h.call?_fresh
  rw [storeRun_step, storeEventsOf, List.foldl_cons, List.foldl_cons, List.foldl_nil,
    Store.Run.step_begins h.call?_fresh, Store.Run.step_ends (h.waiting?_fresh a)]
  constructor
  case store =>
    rw [session_step, Session.step, performCall_store, h.store]
    rfl
  case named => exact (h.named.beginCall t.fresh a).endCall unused reply
  case earlier => exact h.earlier_beginCall a (by simp [storeEventsOf])
  case requests =>
    simp [Session.step, performCall_store, Step.beginsCall, h.store, h.requests,
      Store.Run.beginCall, Store.Run.endCall]
  case answers =>
    simp [Session.step, performCall_store, endsCall, h.store, h.answers, answerOf,
      Store.Ended.completion, Store.Run.beginCall, Store.Run.endCall]

theorem start (name : String) (a : Store.Action) :
    FollowsStore (t.step (.start name (.store a))) (t.step (.start name (.store a))).storeRun := by
  have unused (called : String) (same : some t.fresh = some called) (other : String) :
      t.names other ≠ some called :=
    same ▸ h.named.ne_of_fresh h.call?_fresh other
  rw [storeRun_step, storeEventsOf, List.foldl_cons, List.foldl_nil,
    Store.Run.step_begins h.call?_fresh]
  constructor
  case store =>
    rw [session_step, Session.step, startCall_store, h.store]
    rfl
  case named =>
    rw [session_step, Session.step, startCall_store, h.store]
    exact (h.named.beginCall t.fresh a).start (.store (h.waiting?_fresh a)) unused name
  case earlier => exact h.earlier_beginCall a (by simp [storeEventsOf])
  case requests =>
    simp [Session.step, startCall_store, Step.beginsCall, h.store, h.requests,
      Store.Run.beginCall]
  case answers => simp [endsCall, h.answers, Store.Run.beginCall]

/-- A step that is nothing to the store may only change which other calls are under way. -/
theorem keep {e : Step} (noEvents : t.storeEventsOf e = []) (begins : e.beginsCall = false)
    (ends : t.endsCall e = false) (store : (t.session.step e).session.store = t.session.store)
    (named : IsNamed t.storeRun (t.session.step e).session.running (t.namesAfter e)) :
    FollowsStore (t.step e) (t.step e).storeRun := by
  rw [storeRun_step, noEvents, List.foldl_nil]
  constructor
  case store => rw [session_step, store, h.store]
  case named => exact named
  case earlier =>
    rw [storeEvents_step, noEvents, List.append_nil]
    exact h.earlier
  case requests => simp [begins, h.requests]
  case answers => simp [ends, h.answers]

/-- The call of the store is completed that has begun under this name of the session. -/
theorem finish_store {name called : String} {p : Store.Pending}
    (found : t.session.running.lookup name = some (.store p)) (named : t.names name = some called)
    (waits : t.storeRun.waiting? called = some ⟨called, p⟩) (reply : Reply) :
    FollowsStore (t.step (.finish name reply)) (t.step (.finish name reply)).storeRun := by
  -- No other name of the session stands for this call, so it is not under way any more.
  have unused (other : String) : Function.update t.names name none other ≠ some called := by
    rw [Function.update_apply]
    split
    · simp
    · rename_i apart
      exact fun same => apart (h.named.apart other name called same named)
  rw [storeRun_step, storeEventsOf, named, Option.toList_some, List.map_singleton,
    List.foldl_cons, List.foldl_nil, Store.Run.step_ends waits]
  constructor
  case store =>
    rw [session_step, Session.step, finishNamed_store found, h.store]
    rfl
  case named =>
    rw [session_step, Session.step, finishNamed_store found]
    exact (h.named.forget name).endCall unused reply
  case earlier =>
    intro c hc
    obtain ⟨k, lt, named⟩ := h.earlier c hc
    exact ⟨k, Nat.lt_of_lt_of_le lt (by simp), named⟩
  case requests => simp [Step.beginsCall, h.requests, Store.Run.endCall]
  case answers =>
    simp [Session.step, finishNamed_store found, endsCall, named, h.store, h.answers, answerOf,
      Store.Ended.completion, Store.Run.endCall]

theorem finish_other {name : String} (named : t.names name = none) (reply : Reply)
    (store : (t.session.step (.finish name reply)).session.store = t.session.store)
    (calls : IsNamed t.storeRun (t.session.step (.finish name reply)).session.running
      (Function.update t.names name none)) :
    FollowsStore (t.step (.finish name reply)) (t.step (.finish name reply)).storeRun := by
  refine h.keep ?_ rfl ?_ store calls
  · rw [storeEventsOf, named, Option.toList_none, List.map_nil]
  · rw [endsCall, named, Option.isSome_none]

theorem finish (name : String) (reply : Reply) :
    FollowsStore (t.step (.finish name reply)) (t.step (.finish name reply)).storeRun := by
  have call := h.named.calls name
  generalize found : t.session.running.lookup name = p, named : t.names name = called at call
  cases call with
  | store waits => exact h.finish_store found named waits reply
  | simulate r | load index id =>
      refine h.finish_other named reply ?_ ?_
      · rw [Session.step, finishNamed, found]
        rfl
      · rw [Session.step, finishNamed, found]
        exact h.named.forget name
  | none =>
      refine h.finish_other named reply ?_ ?_
      · rw [Session.step, finishNamed, found]
        rfl
      · rw [Session.step, finishNamed, found, ← named, Function.update_eq_self]
        exact h.named

/-- Every step is to the store what is noted of it. -/
theorem step (e : Step) : FollowsStore (t.step e) (t.step e).storeRun := by
  have kept : e.isCall = false → KeepsStore t.session (t.session.step e).session :=
    t.session.keepsStore_step
  cases e with
  | perform a reply =>
      cases a with
      | store a => exact h.perform a reply
      | simulate r | load index id => exact h.keep rfl rfl rfl rfl h.named
  | start name a =>
      cases a with
      | store a => exact h.start name a
      | simulate r => exact h.keep rfl rfl rfl rfl (h.named.start (.simulate r) (by simp) name)
      | load index id =>
          exact h.keep rfl rfl rfl rfl (h.named.start (.load index id) (by simp) name)
  | finish name reply => exact h.finish name reply
  | subscribe | receive number | overview | beginLoad m | complete load reply
  | viewLoad m reply | render =>
      exact h.keep rfl rfl rfl (kept rfl).store ((kept rfl).running ▸ h.named)

end FollowsStore

/-- So far the run has done what the session did to its view, and the loads of the session are among
those of the run. -/
structure FollowsView (t : Trace) (v : View.Run) : Prop where
  view : t.session.view = v.view
  loads : t.session.loads.map some = t.loads.map (v.loads[·]?)

theorem followsView_new (stream : Stream) :
    FollowsView (new stream) (viewRun stream (new stream)) :=
  ⟨rfl, rfl⟩

theorem getElem?_nextLoad (stream : Stream) (t : Trace) (p : PendingSimulation) :
    ((viewRun stream t).loads ++ [p])[t.nextLoad]? = some p := by
  have length : (viewRun stream t).loads.length = t.nextLoad :=
    View.Run.length_run stream t.viewEvents
  rw [← length, List.getElem?_concat_length]

namespace FollowsView

variable {stream : Stream} (h : t.FollowsView (viewRun stream t))
include h

theorem keep {e : Step} (noEvents : t.viewEventsOf e = []) (noLoad : t.loadsOf e = [])
    (kept : KeepsView t.session (t.session.step e).session) :
    FollowsView (t.step e) (viewRun stream (t.step e)) := by
  rw [viewRun_step, noEvents, List.foldl_nil]
  constructor
  case view => exact kept.view.trans h.view
  case loads =>
    rw [session_step, kept.loads, loads_step, noLoad, List.append_nil]
    exact h.loads

/-- The loads keep their numbers when another one begins. -/
theorem loads_append (p : PendingSimulation) :
    t.session.loads.map some = t.loads.map (((viewRun stream t).loads ++ [p])[·]?) := by
  rw [h.loads]
  refine List.map_congr_left fun k hk => ?_
  have known : (viewRun stream t).loads[k]? ∈ t.session.loads.map some := by
    rw [h.loads]
    exact List.mem_map_of_mem hk
  obtain ⟨q, -, found⟩ := List.mem_map.mp known
  exact (List.getElem?_append_left (List.getElem?_eq_some_iff.mp found.symm).1).symm

theorem beginLoad (m : Option Message) :
    FollowsView (t.step (.beginLoad m)) (viewRun stream (t.step (.beginLoad m))) := by
  cases found : m.or t.session.loaded with
  | none =>
      refine h.keep ?_ ?_ ?_
      · rw [viewEventsOf, found, Option.toList_none, List.map_nil]
      · rw [loadsOf, found, Option.toList_none, List.map_nil]
      · rw [Session.step, Session.beginLoad, found]
        exact ⟨rfl, rfl⟩
  | some m' =>
      have last := getElem?_nextLoad stream t ((viewRun stream t).view.beginLoad m').1
      rw [viewRun_step, viewEventsOf, found, Option.toList_some, List.map_singleton,
        List.foldl_cons, List.foldl_nil, View.Run.step_loads]
      constructor
      case view => rw [session_step, Session.step, beginLoad_some found, h.view]
      case loads =>
        rw [session_step, Session.step, beginLoad_some found, loads_step, loadsOf, found,
          List.map_append, List.map_append, h.view, ← h.loads_append]
        simp only [Option.toList_some, List.map_singleton, last]

theorem complete (load : Nat) (reply : Reply) :
    FollowsView (t.step (.complete load reply))
      (viewRun stream (t.step (.complete load reply))) := by
  cases found : t.session.loads[load]? with
  | none =>
      refine h.keep ?_ rfl ?_
      · simp [viewEventsOf, found]
      · rw [Session.step, completeLoad, found]
        exact ⟨rfl, rfl⟩
  | some p =>
      have same := congrArg (·[load]?) h.loads
      simp only [List.getElem?_map, found, Option.map_some] at same
      obtain ⟨k, number, known⟩ := Option.map_eq_some_iff.mp same.symm
      have noLoad : t.loadsOf (.complete load reply) = [] := rfl
      have noted : t.viewEventsOf (.complete load reply) =
          [.completes k ((Simulation.call p.request).read reply)] := by
        simp [viewEventsOf, found, number]
      rw [viewRun_step, noted, List.foldl_cons, List.foldl_nil,
        View.Run.step_completes_some known]
      constructor
      case view => rw [session_step, Session.step, completeLoad_some found, h.view]
      case loads =>
        rw [session_step, Session.step, completeLoad_some found, loads_step, noLoad,
          List.append_nil]
        exact h.loads

theorem viewLoad (m : Option Message) (reply : Reply) :
    FollowsView (t.step (.viewLoad m reply)) (viewRun stream (t.step (.viewLoad m reply))) := by
  cases found : m.or t.session.loaded with
  | none =>
      refine h.keep ?_ rfl ?_
      · rw [viewEventsOf, found, Option.toList_none, List.flatMap_nil]
      · rw [Session.step, Session.viewLoad, found]
        exact ⟨rfl, rfl⟩
  | some m' =>
      have last := getElem?_nextLoad stream t ((viewRun stream t).view.beginLoad m').1
      have noLoad : t.loadsOf (.viewLoad m reply) = [] := rfl
      rw [viewRun_step, viewEventsOf, found, Option.toList_some, List.flatMap_singleton,
        List.foldl_cons, List.foldl_cons, List.foldl_nil, View.Run.step_loads,
        View.Run.step_completes_some last]
      constructor
      case view => rw [session_step, Session.step, viewLoad_some found, h.view]
      case loads =>
        rw [session_step, Session.step, viewLoad_some found, loads_step, noLoad,
          List.append_nil]
        exact h.loads_append _

/-- Every step is to the view what is noted of it. -/
theorem step (e : Step) : FollowsView (t.step e) (viewRun stream (t.step e)) := by
  have kept : e.isLoad = false → KeepsView t.session (t.session.step e).session :=
    t.session.keepsView_step
  cases e with
  | beginLoad m => exact h.beginLoad m
  | complete load reply => exact h.complete load reply
  | viewLoad m reply => exact h.viewLoad m reply
  | perform a reply | start name a | finish name reply | subscribe | receive number | overview
  | render => exact h.keep rfl rfl (kept rfl)

end FollowsView

theorem follows_foldl (stream : Stream) (steps : List Step) {t : Trace}
    (store : t.FollowsStore t.storeRun) (view : t.FollowsView (viewRun stream t)) :
    let last := steps.foldl step t
    last.FollowsStore last.storeRun ∧ last.FollowsView (viewRun stream last) := by
  induction steps generalizing t with
  | nil => exact ⟨store, view⟩
  | cons e steps ih => exact ih (store.step e) (view.step e)

end Trace

/-- Whatever the steps of a session are, its store is that of a run of the store, in which the same
requests are sent and the same answers are given, and its view is that of a run of the view, in
which its loads have begun. -/
theorem follows_run (stream : Stream) (steps : List Step) :
    let s := run stream steps
    let t := trace stream steps
    let r := Store.run t.storeEvents
    let v := View.run stream t.viewEvents
    t.session = s ∧ s.store = r.store ∧ t.requests = r.begun.map (·.pending.request) ∧
      t.answers = r.ended.map answerOf ∧ s.view = v.view ∧
      s.loads.map some = t.loads.map (v.loads[·]?) := by
  intro s t r v
  have same : t.session = s := session_foldl steps (.new stream)
  obtain ⟨store, view⟩ := Trace.follows_foldl stream steps (Trace.followsStore_new stream)
    (Trace.followsView_new stream)
  exact ⟨same, same ▸ store.store, store.requests, store.answers, same ▸ view.view,
    same ▸ view.loads⟩

end Session
end StreamPipelines
