import StreamPipelines.Proofs.Sequencer
import StreamPipelines.Simulation.View

/-!
Runs of a view. Messages are loaded, and outcomes arrive with the tokens of loads: of the newest
one or of one long gone, late, repeatedly or never. The main statement tells the view from this
history alone: it shows the message that was loaded last, and the last result and the last error
that came with the token of that load.
-/

namespace StreamPipelines
namespace View

inductive Event where
  | loads (m : Message)
  /-- The outcome comes with the token of this load, counted from zero. -/
  | completes (load : Nat) (outcome : Except CallError Simulation)

structure Run where
  view : View
  loads : List PendingSimulation

/-- Without such a load there is no token, and nothing happens. -/
def Run.step (r : Run) : Event → Run
  | .loads m =>
      let (p, view) := r.view.beginLoad m
      ⟨view, r.loads ++ [p]⟩
  | .completes load outcome =>
      match r.loads[load]? with
      | none => r
      | some p => ⟨(r.view.complete p.token outcome).2, r.loads⟩

def run (stream : Stream) (es : List Event) : Run :=
  es.foldl Run.step ⟨.new stream, []⟩

def loaded (es : List Event) : List Message :=
  es.filterMap fun
    | .loads m => some m
    | .completes _ _ => none

/-- The outcomes that came with the token of a load, in order. -/
def outcomesOf (load : Nat) (es : List Event) : List (Except CallError Simulation) :=
  es.filterMap fun
    | .loads _ => none
    | .completes k outcome => if k = load then some outcome else none

def results (outcomes : List (Except CallError Simulation)) : List Simulation :=
  outcomes.filterMap fun
    | .ok simulation => some simulation
    | .error _ => none

def failures (outcomes : List (Except CallError Simulation)) : List CallError :=
  outcomes.filterMap fun
    | .ok _ => none
    | .error e => some e

namespace Run

variable {r : Run}

/-- The token of the load, if it is the newest one. -/
def newest? (r : Run) (load : Nat) : Option Token :=
  (r.loads[load]?.map (·.token)).filter r.view.requests.isLatest

/-- An outcome that comes with the newest token is taken, and any other one is passed over. -/
theorem step_completes (r : Run) (k : Nat) (outcome : Except CallError Simulation) :
    (r.newest? k = none ∧ r.step (.completes k outcome) = r) ∨
    (r.newest? k = some ⟨r.view.requests.latest⟩ ∧
      r.step (.completes k outcome) =
        ⟨{ r.view with load := r.view.load.map (·.settle outcome) }, r.loads⟩) := by
  simp only [newest?, step]
  cases hp : r.loads[k]? with
  | none => exact .inl ⟨rfl, rfl⟩
  | some p =>
      cases taken : r.view.requests.isLatest p.token with
      | false => exact .inl (by simp [View.complete, taken])
      | true =>
          have newest : p.token = ⟨r.view.requests.latest⟩ :=
            congrArg Token.mk (beq_iff_eq.mp taken).symm
          refine .inr ⟨?_, by simp [View.complete, taken]⟩
          rw [Option.map_some, Option.filter_some_pos taken, newest]

theorem step_loads (r : Run) (m : Message) :
    r.step (.loads m) = ⟨(r.view.beginLoad m).2, r.loads ++ [(r.view.beginLoad m).1]⟩ :=
  rfl

theorem step_completes_some {k : Nat} {p : PendingSimulation} (found : r.loads[k]? = some p)
    (outcome : Except CallError Simulation) :
    r.step (.completes k outcome) = ⟨(r.view.complete p.token outcome).2, r.loads⟩ := by
  simp only [step, found]

/-- The token of each load is its number, counted from one. -/
structure Numbered (r : Run) : Prop where
  latest : r.view.requests.latest.toNat = r.loads.length
  tokens : ∀ k p, r.loads[k]? = some p → p.token.value.toNat = k + 1

theorem numbered_new (stream : Stream) : Numbered ⟨.new stream, []⟩ :=
  ⟨rfl, nofun⟩

theorem length_foldl (es : List Event) (r : Run) :
    (es.foldl step r).loads.length = r.loads.length + (loaded es).length := by
  induction es generalizing r with
  | nil => rfl
  | cons e es ih =>
      rw [List.foldl_cons, ih]
      cases e with
      | loads m => simp [step, loaded, Nat.add_assoc, Nat.add_comm 1]
      | completes k outcome =>
          simp only [step]
          split <;> rfl

theorem Numbered.loads (h : Numbered r) (m : Message) (few : r.loads.length + 1 < 2 ^ 64) :
    Numbered (r.step (.loads m)) := by
  have next := r.view.requests.toNat_issue _ h.latest few
  refine ⟨next.2.trans (by simp [step]), fun k p hp => ?_⟩
  simp only [step, List.getElem?_append] at hp
  split at hp
  · exact h.tokens k p hp
  · rename_i notBefore
    have last : k = r.loads.length := by
      have := (List.getElem?_eq_some_iff.mp hp).1
      simp at this
      omega
    simp only [last, Nat.sub_self, List.getElem?_cons_zero, Option.some.injEq] at hp
    rw [← hp, last]
    exact next.1

/-- An outcome is taken exactly with the token of the newest load. -/
theorem Numbered.complete (h : Numbered r) {k : Nat} {p : PendingSimulation}
    (hp : r.loads[k]? = some p) (outcome : Except CallError Simulation) :
    r.view.complete p.token outcome =
      if k + 1 = r.loads.length then
        (true, { r.view with load := r.view.load.map (·.settle outcome) })
      else (false, r.view) := by
  have taken : r.view.requests.isLatest p.token = decide (k + 1 = r.loads.length) := by
    rw [Sequencer.isLatest, Bool.eq_iff_iff, beq_iff_eq, decide_eq_true_eq, ← UInt64.toNat_inj,
      h.latest, h.tokens k p hp]
    exact eq_comm
  simp only [View.complete, taken, decide_eq_true_eq]

theorem Numbered.completes (h : Numbered r) (k : Nat) (outcome : Except CallError Simulation) :
    Numbered (r.step (.completes k outcome)) := by
  simp only [step]
  cases hp : r.loads[k]? with
  | none => exact h
  | some p =>
      simp only [h.complete hp]
      refine ⟨?_, h.tokens⟩
      split <;> exact h.latest

theorem Numbered.foldl (h : Numbered r) (es : List Event)
    (few : (es.foldl step r).loads.length < 2 ^ 64) : Numbered (es.foldl step r) := by
  induction es generalizing r with
  | nil => exact h
  | cons e es ih =>
      refine ih ?_ few
      have fewer : (r.step e).loads.length < 2 ^ 64 := by
        rw [List.foldl_cons, length_foldl] at few
        omega
      cases e with
      | loads m => exact h.loads m (by simpa [step] using fewer)
      | completes k outcome => exact h.completes k outcome

theorem Numbered.completes_newest (h : Numbered r) {n : Nat} {l : Load}
    (newest : r.loads.length = n + 1) (shown : r.view.load = some l)
    (outcome : Except CallError Simulation) :
    r.step (.completes n outcome) =
      ⟨{ r.view with load := some (l.settle outcome) }, r.loads⟩ := by
  have hp := List.getElem?_eq_getElem (show n < r.loads.length by omega)
  simp only [step, hp, h.complete hp, newest, if_true, shown, Option.map_some]

theorem Numbered.completes_older (h : Numbered r) {n k : Nat} (newest : r.loads.length = n + 1)
    (older : k ≠ n) (outcome : Except CallError Simulation) :
    r.step (.completes k outcome) = r := by
  simp only [step]
  cases hp : r.loads[k]? with
  | none => rfl
  | some p => simp [h.complete hp, newest, older]

/-- As long as no message is loaded, the newest load takes the outcomes that come with its own
token, and no others. -/
theorem Numbered.settled (h : Numbered r) {n : Nat} {l : Load} (newest : r.loads.length = n + 1)
    (shown : r.view.load = some l) {es : List Event} (noLoad : loaded es = []) :
    (es.foldl step r).view.load = some ((outcomesOf n es).foldl Load.settle l) := by
  induction es generalizing r l with
  | nil => exact shown
  | cons e es ih =>
      cases e with
      | loads m => cases noLoad
      | completes k outcome =>
          rw [List.foldl_cons]
          by_cases own : k = n
          · have same : outcomesOf n (.completes k outcome :: es) =
                outcome :: outcomesOf n es := by
              simp [outcomesOf, own]
            have next := h.completes k outcome
            rw [own, h.completes_newest newest shown] at next
            rw [same, own, h.completes_newest newest shown]
            exact ih next newest rfl noLoad
          · have same : outcomesOf n (.completes k outcome :: es) = outcomesOf n es := by
              simp [outcomesOf, own]
            rw [h.completes_older newest own, same]
            exact ih h newest shown noLoad

theorem length_run (stream : Stream) (es : List Event) :
    (run stream es).loads.length = (loaded es).length := by
  simp [run, length_foldl]

theorem numbered_run (stream : Stream) {es : List Event} (few : (loaded es).length < 2 ^ 64) :
    Numbered (run stream es) :=
  numbered_new stream |>.foldl es (by rwa [← length_run stream es] at few)

theorem foldl_of_noLoad (stream : Stream) {es : List Event} (noLoad : loaded es = []) :
    es.foldl step ⟨.new stream, []⟩ = ⟨.new stream, []⟩ := by
  induction es with
  | nil => rfl
  | cons e es ih =>
      cases e with
      | loads m => cases noLoad
      | completes k outcome => exact ih noLoad

theorem load_run (stream : Stream) {before : List Event} {m : Message} {after : List Event}
    (few : (loaded (before ++ .loads m :: after)).length < 2 ^ 64) (noLoad : loaded after = []) :
    (run stream (before ++ .loads m :: after)).view.load =
      some ((outcomesOf (loaded before).length after).foldl Load.settle (.ofMessage m)) := by
  have started : run stream (before ++ .loads m :: after) =
      after.foldl step (run stream (before ++ [.loads m])) := by
    simp [run]
  have begins : (run stream (before ++ [.loads m])).view.load = some (.ofMessage m) := by
    rw [run, List.foldl_append]
    rfl
  have newest : (run stream (before ++ [.loads m])).loads.length = (loaded before).length + 1 := by
    rw [length_run]
    simp [loaded]
  have numbered : (run stream (before ++ [.loads m])).Numbered := by
    refine numbered_run stream (Nat.lt_of_le_of_lt ?_ few)
    simp [loaded]
  rw [started]
  exact numbered.settled newest begins noLoad

end Run

theorem getLast?_cons_or {α : Type} (a : α) (as : List α) (b : Option α) :
    (a :: as).getLast?.or b = as.getLast?.or (some a) := by
  rw [List.getLast?_cons]
  cases as.getLast? <;> rfl

/-- A load keeps the last result and the last error among its outcomes. -/
theorem foldl_settle (l : Load) (outcomes : List (Except CallError Simulation)) :
    outcomes.foldl Load.settle l =
      ⟨l.message, l.isLoading && outcomes.isEmpty, (results outcomes).getLast?.or l.simulation,
        (failures outcomes).getLast?.or l.error⟩ := by
  induction outcomes generalizing l with
  | nil => simp [results, failures]
  | cons outcome outcomes ih =>
      rw [List.foldl_cons, ih]
      cases outcome with
      | ok simulation =>
          have more : results (.ok simulation :: outcomes) = simulation :: results outcomes := rfl
          rw [more, getLast?_cons_or]
          simp [Load.settle, failures]
      | error e =>
          have more : failures (.error e :: outcomes) = e :: failures outcomes := rfl
          rw [more, getLast?_cons_or]
          simp [Load.settle, results]

/-- After any run an outcome is taken exactly with the token of the newest load, and changes
nothing otherwise. The view shows the message that was loaded last, waits for its first outcome,
and has the last result and the last error among its outcomes. -/
theorem view_of_run (stream : Stream) (es : List Event) (few : (loaded es).length < 2 ^ 64) :
    (run stream es).loads.length = (loaded es).length ∧
    (∀ k p outcome, (run stream es).loads[k]? = some p →
      (((run stream es).view.complete p.token outcome).1 = true ↔ k + 1 = (loaded es).length) ∧
      (((run stream es).view.complete p.token outcome).1 = false →
        ((run stream es).view.complete p.token outcome).2 = (run stream es).view)) ∧
    (loaded es = [] → (run stream es).view = .new stream) ∧
    ∀ before m after, es = before ++ .loads m :: after → loaded after = [] →
      let view := (run stream es).view
      let own := outcomesOf (loaded before).length after
      view.message = some m ∧ (view.isLoading = true ↔ own = []) ∧
      view.simulation = (results own).getLast? ∧ view.error = (failures own).getLast? := by
  have length := Run.length_run stream es
  have numbered := Run.numbered_run stream few
  refine ⟨length, fun k p outcome hp => ?_, fun noLoad => ?_, fun before m after split noLoad => ?_⟩
  · rw [numbered.complete hp, length]
    split <;> simp_all
  · rw [run, Run.foldl_of_noLoad stream noLoad]
  · intro view own
    subst split
    have shown : view.load = _ := Run.load_run stream few noLoad
    rw [foldl_settle] at shown
    refine ⟨?_, ?_, ?_, ?_⟩
    · simp [message, shown, Load.ofMessage]
    · simp [isLoading, shown, Load.ofMessage, own]
    · simp [simulation, shown, Load.ofMessage, own]
    · simp [error, shown, Load.ofMessage, own]

/-- The token of the older load comes before and after that of the newer one, which comes twice. -/
theorem view_of_run_overlapping :
    let old : Message := ⟨.empty, some "old", .empty, none⟩
    let new : Message := ⟨.empty, some "new", .empty, none⟩
    let cause : CallError := .fetch (.notJson "end of input")
    let es : List Event :=
      [.loads old, .loads new, .completes 0 (.ok ⟨[old], 1⟩), .completes 1 (.error cause),
        .completes 1 (.ok ⟨[], 2⟩), .completes 0 (.error (.fetch (.notJson "late")))]
    let view := (run ⟨"A", "Errors"⟩ es).view
    (loaded es).length < 2 ^ 64 ∧ view.message = some new ∧ view.isLoading = false ∧
      view.simulation = some ⟨[], 2⟩ ∧ view.error = some cause ∧
      (view.complete ⟨1⟩ (.ok ⟨[], 3⟩)).1 = false ∧ (view.complete ⟨2⟩ (.ok ⟨[], 3⟩)).1 = true := by
  intro old new cause es view
  have few : (loaded es).length < 2 ^ 64 := by decide
  obtain ⟨-, taken, -, shown⟩ := view_of_run ⟨"A", "Errors"⟩ es few
  obtain ⟨message, loading, simulation, error⟩ := shown [.loads old] new _ rfl rfl
  have older := taken 0 ⟨⟨1⟩, _⟩ (.ok ⟨[], 3⟩) rfl
  have newest := taken 1 ⟨⟨2⟩, _⟩ (.ok ⟨[], 3⟩) rfl
  refine ⟨few, message, ?_, simulation, error, ?_, newest.1.mpr rfl⟩
  · exact Bool.eq_false_iff.mpr (mt loading.mp nofun)
  · exact Bool.eq_false_iff.mpr (mt older.1.mp (by decide))

end View
end StreamPipelines
