import StreamPipelines.Proofs.Simulation.Run
import StreamPipelines.Simulation.Panel

/-!
What the panel shows in every state that a view can reach, also in one with a result and an error.
The parts of a panel are found by separate looks at the load; the main statement says that they
agree with each other and with the phase. It rests on one invariant, that a load that waits has
neither result nor error.
-/

namespace StreamPipelines

/-- What the first message in the pane has otherwise. -/
def Pane.changes (loaded : Message) : Pane → List Change
  | .messages (first :: _) => loaded.changes first
  | .loading | .dropped | .messages [] | .empty => []

namespace Panel

def waitingStatus : String :=
  "Simulating message processing, please wait a moment."

def tookStatus (micros : UInt64) : String :=
  "These are the results of processing the loaded message. Processing took " ++
    Text.elapsed micros ++ "."

def missingStatus : String :=
  "No simulation results are available for the loaded message."

/-- The panel agrees with the view, of which `m` is the message that was loaded last. -/
structure Shows (p : Panel) (v : View) (m : Message) : Prop where
  loaded : p.loaded = some m
  loading : p.simulation = .loading ↔ v.phase = .loading
  waiting : v.phase = .loading → p.error = none ∧ p.changes = []
  dropped : p.simulation = .dropped ↔ ∃ s, v.simulation = some s ∧ s.messages = []
  messages : ∀ ms, p.simulation = .messages ms ↔
    ms ≠ [] ∧ ∃ s, v.simulation = some s ∧ s.messages = ms
  error : p.error.isSome ↔ v.phase = .error
  waits : p.status = waitingStatus ↔ p.simulation = .loading
  took : (∃ micros, p.status = tookStatus micros) ↔
    p.simulation = .dropped ∨ ∃ ms, p.simulation = .messages ms
  elapsed : ∀ s, v.simulation = some s → p.status = tookStatus s.micros
  missing : p.status = missingStatus ↔ p.simulation = .empty
  changes : p.changes = p.simulation.changes m

theorem head?_tookStatus (micros : UInt64) : (tookStatus micros).toList.head? = some 'T' := by
  unfold tookStatus
  generalize Text.elapsed micros = elapsed
  rw [String.toList_append, String.toList_append]
  simp

theorem tookStatus_ne_waitingStatus (micros : UInt64) : tookStatus micros ≠ waitingStatus := by
  intro same
  have head := head?_tookStatus micros
  rw [same, waitingStatus] at head
  simp at head

theorem tookStatus_ne_missingStatus (micros : UInt64) : tookStatus micros ≠ missingStatus := by
  intro same
  have head := head?_tookStatus micros
  rw [same, missingStatus] at head
  simp at head

theorem waitingStatus_ne_missingStatus : waitingStatus ≠ missingStatus := by
  simp [waitingStatus, missingStatus]

/-- The pane and the status that a load has. -/
inductive Reads (l : Load) : Pane → String → Prop
  | loading (waits : l.isLoading = true) : Reads l .loading waitingStatus
  | empty (settled : l.isLoading = false) (missing : l.simulation = none) :
      Reads l .empty missingStatus
  | dropped (s : Simulation) (settled : l.isLoading = false) (held : l.simulation = some s)
      (noMessage : s.messages = []) : Reads l .dropped (tookStatus s.micros)
  | messages (s : Simulation) (settled : l.isLoading = false) (held : l.simulation = some s)
      (someMessage : s.messages ≠ []) : Reads l (.messages s.messages) (tookStatus s.micros)

theorem reads_ofLoad (l : Load) : Reads l (paneOf l) (statusOf l) := by
  unfold paneOf statusOf
  cases waits : l.isLoading with
  | true => exact .loading waits
  | false =>
      cases held : l.simulation with
      | none => exact .empty waits held
      | some s =>
          by_cases noMessage : s.messages = []
          · simp only [Simulation.isDropped, noMessage, List.isEmpty_nil]
            exact .dropped s waits held noMessage
          · simp only [Simulation.isDropped, List.isEmpty_eq_false_iff.mpr noMessage]
            exact .messages s waits held noMessage

variable {l : Load} {pane : Pane} {status : String}

theorem Reads.status_eq_waiting_iff (h : Reads l pane status) :
    status = waitingStatus ↔ pane = .loading := by
  cases h with
  | loading => simp
  | empty => simp [waitingStatus_ne_missingStatus.symm]
  | dropped | messages => simp [tookStatus_ne_waitingStatus]

theorem Reads.status_eq_missing_iff (h : Reads l pane status) :
    status = missingStatus ↔ pane = .empty := by
  cases h with
  | loading => simp [waitingStatus_ne_missingStatus]
  | empty => simp
  | dropped | messages => simp [tookStatus_ne_missingStatus]

theorem Reads.status_eq_took_iff (h : Reads l pane status) :
    (∃ micros, status = tookStatus micros) ↔ pane = .dropped ∨ ∃ ms, pane = .messages ms := by
  cases h with
  | loading => simp [fun micros => (tookStatus_ne_waitingStatus micros).symm]
  | empty => simp [fun micros => (tookStatus_ne_missingStatus micros).symm]
  | dropped s | messages s => exact iff_of_true ⟨s.micros, rfl⟩ (by simp)

theorem Reads.pane_eq_loading_iff (h : Reads l pane status) :
    pane = .loading ↔ l.isLoading = true := by
  cases h with
  | loading waits => simp [waits]
  | empty settled | dropped _ settled | messages _ settled => simp [settled]

def Clear (l : Load) : Prop :=
  l.isLoading = true → l.simulation = none ∧ l.error = none

theorem clear_settle (l : Load) (outcome : Except CallError Simulation) :
    Clear (l.settle outcome) := by
  cases outcome <;> exact nofun

theorem Clear.settled_of_error (clear : Clear l) (failed : l.error.isSome = true) :
    l.isLoading = false := by
  cases waits : l.isLoading with
  | false => rfl
  | true => simp [(clear waits).2] at failed

theorem Reads.pane_eq_dropped_iff (h : Reads l pane status) (clear : Clear l) :
    pane = .dropped ↔ ∃ s, l.simulation = some s ∧ s.messages = [] := by
  cases h with
  | loading waits => simp [(clear waits).1]
  | empty _ missing => simp [missing]
  | dropped s _ held noMessage => simp [held, noMessage]
  | messages s _ held someMessage => simp [held, someMessage]

theorem Reads.pane_eq_messages_iff (h : Reads l pane status) (clear : Clear l)
    (ms : List Message) :
    pane = .messages ms ↔ ms ≠ [] ∧ ∃ s, l.simulation = some s ∧ s.messages = ms := by
  cases h with
  | loading waits => simp [(clear waits).1]
  | empty _ missing => simp [missing]
  | dropped s _ held noMessage =>
      simp only [reduceCtorEq, held, Option.some.injEq, exists_eq_left', noMessage, false_iff]
      exact fun ⟨someMessage, same⟩ => someMessage same.symm
  | messages s _ held someMessage =>
      simp only [Pane.messages.injEq, held, Option.some.injEq, exists_eq_left']
      exact ⟨fun same => ⟨same ▸ someMessage, same⟩, And.right⟩

theorem Reads.status_of_simulation (h : Reads l pane status) (clear : Clear l)
    {s : Simulation} (found : l.simulation = some s) : status = tookStatus s.micros := by
  cases h with
  | loading waits => simp [(clear waits).1] at found
  | empty _ missing => simp [missing] at found
  | dropped _ _ held | messages _ _ held =>
      cases held.symm.trans found
      rfl

theorem Reads.changesOf_eq (h : Reads l pane status) (clear : Clear l) :
    changesOf l = pane.changes l.message := by
  cases h with
  | loading waits => simp [changesOf, (clear waits).1, Pane.changes]
  | empty _ missing => simp [changesOf, missing, Pane.changes]
  | dropped s _ held noMessage => simp [changesOf, held, noMessage, Pane.changes]
  | messages s _ held someMessage =>
      obtain ⟨first, others, split⟩ := List.exists_cons_of_ne_nil someMessage
      simp [changesOf, held, split, Pane.changes]

end Panel

namespace View

variable {v : View} {l : Load}

theorem phase_eq_loading_iff (v : View) : v.phase = .loading ↔ v.isLoading = true := by
  unfold phase
  cases v.isLoading <;> cases v.error <;> cases v.simulation <;> simp

theorem phase_eq_error_iff (v : View) :
    v.phase = .error ↔ v.isLoading = false ∧ v.error.isSome = true := by
  unfold phase
  cases v.isLoading <;> cases v.error <;> cases v.simulation <;> simp

theorem shows_ofLoad (shown : v.load = some l) (clear : Panel.Clear l) :
    (Panel.ofLoad v.stream l).Shows v l.message := by
  have loading : v.phase = .loading ↔ l.isLoading = true := by
    simp [phase_eq_loading_iff, isLoading, shown]
  have failed : v.phase = .error ↔ l.isLoading = false ∧ l.error.isSome = true := by
    simp [phase_eq_error_iff, isLoading, error, shown]
  have held : v.simulation = l.simulation := by
    simp [simulation, shown]
  have reads := Panel.reads_ofLoad l
  exact {
    loaded := rfl
    loading := reads.pane_eq_loading_iff.trans loading.symm
    waiting := fun waits => by
      obtain ⟨noResult, noError⟩ := clear (loading.mp waits)
      simp [Panel.ofLoad, Panel.changesOf, noResult, noError]
    dropped := held ▸ reads.pane_eq_dropped_iff clear
    messages := fun ms => held ▸ reads.pane_eq_messages_iff clear ms
    error := by
      rw [failed, Panel.ofLoad, Option.isSome_map]
      exact ⟨fun failed => ⟨clear.settled_of_error failed, failed⟩, And.right⟩
    waits := reads.status_eq_waiting_iff
    took := reads.status_eq_took_iff
    elapsed := fun s found => reads.status_of_simulation clear (held ▸ found)
    missing := reads.status_eq_missing_iff
    changes := reads.changesOf_eq clear }

namespace Run

theorem message_foldl (es : List Event) (r : Run) :
    (es.foldl step r).view.message = (loaded es).getLast?.or r.view.message := by
  induction es generalizing r with
  | nil => rfl
  | cons e es ih =>
      rw [List.foldl_cons, ih]
      cases e with
      | loads m =>
          have more : loaded (.loads m :: es) = m :: loaded es := rfl
          rw [more, getLast?_cons_or]
          rfl
      | completes k outcome =>
          have same : (r.step (.completes k outcome)).view.message = r.view.message := by
            obtain ⟨-, passed⟩ | ⟨-, taken⟩ := r.step_completes k outcome
            · rw [passed]
            · rw [taken]
              simp only [message, Option.map_map]
              congr 1
              funext l
              cases outcome <;> rfl
          rw [same]
          rfl

theorem clear_foldl (es : List Event) {r : Run} (h : ∀ l ∈ r.view.load, Panel.Clear l) :
    ∀ l ∈ (es.foldl step r).view.load, Panel.Clear l := by
  induction es generalizing r with
  | nil => exact h
  | cons e es ih =>
      refine ih ?_
      cases e with
      | loads m =>
          intro l begun
          cases begun
          exact fun _ => ⟨rfl, rfl⟩
      | completes k outcome =>
          obtain ⟨-, passed⟩ | ⟨-, taken⟩ := r.step_completes k outcome
          · rwa [passed]
          · rw [taken]
            intro l settled
            obtain ⟨before, -, rfl⟩ := Option.map_eq_some_iff.mp settled
            exact Panel.clear_settle before outcome

end Run

/-- After any run there is a panel exactly if a message was loaded, and it agrees with the view. -/
theorem panel_of_run (stream : Stream) (es : List Event) :
    ((run stream es).view.panel = none ↔ loaded es = []) ∧
    ∀ m, (loaded es).getLast? = some m →
      ∃ p, (run stream es).view.panel = some p ∧ p.Shows (run stream es).view m := by
  have message : (run stream es).view.message = (loaded es).getLast? := by
    rw [run, Run.message_foldl]
    exact Option.or_none
  have clear : ∀ l ∈ (run stream es).view.load, Panel.Clear l := by
    refine Run.clear_foldl es fun l begun => ?_
    simp [View.new] at begun
  refine ⟨?_, fun m last => ?_⟩
  · rw [← List.getLast?_eq_none_iff, ← message, View.panel, View.message,
      Option.map_eq_none_iff, Option.map_eq_none_iff]
  · rw [← message] at last
    obtain ⟨l, shown, rfl⟩ := Option.map_eq_some_iff.mp last
    refine ⟨Panel.ofLoad (run stream es).view.stream l, ?_, shows_ofLoad shown (clear l shown)⟩
    rw [View.panel, shown, Option.map_some]

/-- The newer of two loads gets a result and then an error: the panel shows both. -/
theorem panel_of_run_result_and_error :
    let old : Message := ⟨.empty, some "old", .empty, none⟩
    let new : Message := ⟨.empty, some "new", .empty, none⟩
    let cause : CallError := .fetch (.notJson "end of input")
    let es : List Event :=
      [.loads old, .loads new, .completes 1 (.ok ⟨[old, new], 1⟩), .completes 0 (.ok ⟨[], 2⟩),
        .completes 1 (.error cause)]
    let view := (run ⟨"A", "Errors"⟩ es).view
    (loaded es).getLast? = some new ∧
      ∃ p, view.panel = some p ∧ p.Shows view new ∧ p.loaded = some new ∧
        p.simulation = .messages [old, new] ∧ p.error.isSome ∧ p.changes = new.changes old := by
  intro old new cause es view
  obtain ⟨p, shown, shows⟩ := (panel_of_run ⟨"A", "Errors"⟩ es).2 new rfl
  have pane : p.simulation = .messages [old, new] :=
    (shows.messages [old, new]).mpr ⟨nofun, ⟨[old, new], 1⟩, rfl, rfl⟩
  have changes := shows.changes
  rw [pane] at changes
  exact ⟨rfl, p, shown, shows, shows.loaded, pane, shows.error.mpr rfl, changes⟩

end View
end StreamPipelines
