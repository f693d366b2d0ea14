import StreamPipelines.Session

/-!
What a step does to a session: which parts of it the step leaves alone, and what becomes of the
store or the view with the steps that concern them.
-/

namespace StreamPipelines
namespace Session

/-- The step leaves alone what is known of the connections and of the calls. -/
structure KeepsStore (s s' : Session) : Prop where
  store : s'.store = s.store
  running : s'.running = s.running

def Step.isCall : Step → Bool
  | .perform _ _ | .start _ _ | .finish _ _ => true
  | _ => false

theorem keepsStore_step (s : Session) {e : Step} (noCall : e.isCall = false) :
    KeepsStore s (s.step e).session := by
  cases e with
  | perform a reply | start name a | finish name reply => cases noCall
  | subscribe | overview | render => exact ⟨rfl, rfl⟩
  | receive number =>
      rw [step, receive]
      split <;> exact ⟨rfl, rfl⟩
  | beginLoad m =>
      rw [step, beginLoad]
      split <;> exact ⟨rfl, rfl⟩
  | complete load reply =>
      rw [step, completeLoad]
      split <;> exact ⟨rfl, rfl⟩
  | viewLoad m reply =>
      rw [step, viewLoad]
      split <;> exact ⟨rfl, rfl⟩

/-- The step leaves alone the view and the loads that may be referred to. -/
structure KeepsView (s s' : Session) : Prop where
  view : s'.view = s.view
  loads : s'.loads = s.loads

def Step.isLoad : Step → Bool
  | .beginLoad _ | .complete _ _ | .viewLoad _ _ => true
  | _ => false

theorem keepsView_step (s : Session) {e : Step} (noLoad : e.isLoad = false) :
    KeepsView s (s.step e).session := by
  cases e with
  | perform a reply | start name a => cases a <;> exact ⟨rfl, rfl⟩
  | finish name reply =>
      rw [step, finishNamed]
      split
      · exact ⟨rfl, rfl⟩
      · rename_i p found
        cases p <;> exact ⟨rfl, rfl⟩
  | receive number =>
      rw [step, receive]
      split <;> exact ⟨rfl, rfl⟩
  | subscribe | overview | render => exact ⟨rfl, rfl⟩
  | beginLoad m | complete load reply | viewLoad m reply => cases noLoad

theorem performCall_store (s : Session) (a : Store.Action) (reply : Reply) :
    let p := (s.store.begin a).1
    let c := (s.store.begin a).2.complete p reply
    s.performCall (.store a) reply =
      ⟨.answer (c.result.map .store), [p.request], c.notices, { s with store := c.store }⟩ :=
  rfl

theorem startCall_store (s : Session) (name : String) (a : Store.Action) :
    let p := (s.store.begin a).1
    s.startCall name (.store a) =
      ⟨.started, [p.request], [],
        { s with store := (s.store.begin a).2, running := (name, .store p) :: s.running }⟩ :=
  rfl

theorem finishNamed_store {s : Session} {name : String} {p : Store.Pending}
    (found : s.running.lookup name = some (.store p)) (reply : Reply) :
    let c := s.store.complete p reply
    s.finishNamed name reply =
      ⟨.answer (c.result.map .store), [], c.notices,
        { s with store := c.store, running := s.running.filter (·.1 ≠ name) }⟩ := by
  rw [finishNamed, found]
  rfl

theorem beginLoad_some {s : Session} {m : Option Message} {m' : Message}
    (found : m.or s.loaded = some m') :
    (s.beginLoad m).session =
      { s with
        view := (s.view.beginLoad m').2
        loads := s.loads ++ [(s.view.beginLoad m').1] } := by
  rw [beginLoad, found]
  rfl

theorem completeLoad_some {s : Session} {load : Nat} {p : PendingSimulation}
    (found : s.loads[load]? = some p) (reply : Reply) :
    (s.completeLoad load reply).session =
      { s with view := (s.view.complete p.token ((Simulation.call p.request).read reply)).2 } := by
  rw [completeLoad, found]
  rfl

theorem viewLoad_some {s : Session} {m : Option Message} {m' : Message}
    (found : m.or s.loaded = some m') (reply : Reply) :
    let p := (s.view.beginLoad m').1
    let outcome := (Simulation.call p.request).read reply
    (s.viewLoad m reply).session =
      { s with view := ((s.view.beginLoad m').2.complete p.token outcome).2 } := by
  rw [viewLoad, found]

theorem lookup_cons_ite (running : List (String × Pending)) (first name : String) (p : Pending) :
    ((first, p) :: running).lookup name = if name = first then some p else running.lookup name := by
  by_cases same : name = first
  · rw [if_pos same, same, List.lookup_cons_self]
  · rw [if_neg same, List.lookup_cons, beq_false_of_ne same]

theorem lookup_filter_ne (running : List (String × Pending)) (name other : String) :
    (running.filter (·.1 ≠ name)).lookup other =
      if other = name then none else running.lookup other := by
  induction running with
  | nil => simp
  | cons p running ih =>
      obtain ⟨first, p⟩ := p
      by_cases dropped : first = name
      · rw [List.filter_cons_of_neg (by simpa using dropped), ih, lookup_cons_ite, dropped]
        by_cases same : other = name
        · rw [if_pos same, if_pos same]
        · rw [if_neg same, if_neg same, if_neg same]
      · rw [List.filter_cons_of_pos (by simpa using dropped), lookup_cons_ite, lookup_cons_ite, ih]
        by_cases here : other = first
        · rw [if_pos here, if_pos here, here, if_neg dropped]
        · rw [if_neg here, if_neg here]

end Session
end StreamPipelines
