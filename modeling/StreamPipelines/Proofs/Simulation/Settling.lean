import StreamPipelines.Proofs.Simulation.Run

/-!
From phase to phase. A load waits until an outcome comes with its token; then it has settled with
a result or an error, and only a new load goes on from there. This takes that the newest token
does not come twice, for a view does not tell the second outcome of a load from its first: a load
that gets a result and an error shows both.
-/

namespace StreamPipelines
namespace View

namespace Run

def newestFrom (r : Run) : List Event → List Token
  | [] => []
  | .loads m :: es => (r.step (.loads m)).newestFrom es
  | .completes load outcome :: es =>
      (r.newest? load).toList ++ (r.step (.completes load outcome)).newestFrom es

theorem newestFrom_append (r : Run) (es later : List Event) :
    r.newestFrom (es ++ later) = r.newestFrom es ++ (es.foldl step r).newestFrom later := by
  induction es generalizing r with
  | nil => rfl
  | cons e es ih =>
      cases e with
      | loads m => exact ih _
      | completes k outcome =>
          simp only [List.cons_append, newestFrom, ih, List.foldl_cons, List.append_assoc]

end Run

/-- The tokens that were the newest when an outcome came with them, in order. A token that stands
here twice is that of a load with two outcomes. -/
def newestTokens (stream : Stream) (es : List Event) : List Token :=
  Run.newestFrom ⟨.new stream, []⟩ es

def Phase.ofOutcome : Except CallError Simulation → Phase
  | .ok _ => .result
  | .error _ => .error

/-- A load begins in any phase. An outcome changes nothing, or it is that of a load that waits. -/
inductive Moves (v w : View) : Event → Prop
  | loads (m : Message) (begun : w.phase = .loading) : Moves v w (.loads m)
  | passes (load : Nat) (outcome : Except CallError Simulation) (same : w = v) :
      Moves v w (.completes load outcome)
  | settles (load : Nat) (outcome : Except CallError Simulation) (waited : v.phase = .loading)
      (settled : w.phase = .ofOutcome outcome) : Moves v w (.completes load outcome)

theorem Moves.stays {v w : View} {load : Nat} {outcome : Except CallError Simulation}
    (h : Moves v w (.completes load outcome)) (settled : v.phase = .result ∨ v.phase = .error) :
    w = v := by
  cases h with
  | passes _ _ same => exact same
  | settles _ _ waited => simp [waited] at settled

/-- The load that is shown has no outcome, or just one, and that came with one of the `used`
tokens. -/
inductive Stage (used : List Token) (v : View) : Prop
  | idle (shown : v.load = none)
  | waits (m : Message) (shown : v.load = some (.ofMessage m))
  | settled (m : Message) (outcome : Except CallError Simulation)
      (shown : v.load = some ((Load.ofMessage m).settle outcome))
      (spent : ⟨v.requests.latest⟩ ∈ used)

theorem Stage.exclusive {used : List Token} {v : View} (h : Stage used v) :
    ¬ (v.simulation.isSome ∧ v.error.isSome) := by
  cases h with
  | idle shown => simp [simulation, shown]
  | waits m shown => simp [simulation, shown, Load.ofMessage]
  | settled m outcome shown _ =>
      cases outcome <;> simp [simulation, error, shown, Load.ofMessage, Load.settle]

theorem phase_of_waits {v : View} {m : Message} (shown : v.load = some (.ofMessage m)) :
    v.phase = .loading := by
  simp [phase, isLoading, shown, Load.ofMessage]

theorem phase_of_settled {v : View} {m : Message} {outcome : Except CallError Simulation}
    (shown : v.load = some ((Load.ofMessage m).settle outcome)) :
    v.phase = .ofOutcome outcome := by
  cases outcome <;>
    simp [phase, isLoading, error, simulation, shown, Load.ofMessage, Load.settle,
      Phase.ofOutcome]

theorem stage_loads (used : List Token) (r : Run) (m : Message) :
    Stage used (r.step (.loads m)).view ∧
      Moves r.view (r.step (.loads m)).view (.loads m) :=
  ⟨.waits m rfl, .loads m (phase_of_waits rfl)⟩

theorem Stage.completes {used : List Token} {r : Run} (h : Stage used r.view) (k : Nat)
    (outcome : Except CallError Simulation) (once : ∀ t, r.newest? k = some t → t ∉ used) :
    Stage (used ++ (r.newest? k).toList) (r.step (.completes k outcome)).view ∧
      Moves r.view (r.step (.completes k outcome)).view (.completes k outcome) := by
  obtain ⟨passed, same⟩ | ⟨newest, taken⟩ := r.step_completes k outcome
  · rw [passed, same, Option.toList_none, List.append_nil]
    exact ⟨h, .passes k outcome rfl⟩
  · rw [taken]
    cases h with
    | idle shown =>
        have same : { r.view with load := r.view.load.map (·.settle outcome) } = r.view := by
          rw [shown, Option.map_none, ← shown]
        exact ⟨.idle (by simp [shown]), .passes k outcome same⟩
    | waits m shown =>
        have settled : r.view.load.map (·.settle outcome) =
            some ((Load.ofMessage m).settle outcome) := by
          rw [shown, Option.map_some]
        refine ⟨.settled m outcome settled (by simp [newest]), ?_⟩
        exact .settles k outcome (phase_of_waits shown) (phase_of_settled settled)
    | settled _ _ _ spent => exact absurd spent (once _ newest)

theorem Stage.foldl {used : List Token} {r : Run} (h : Stage used r.view) (es : List Event)
    (once : (used ++ r.newestFrom es).Nodup) :
    Stage (used ++ r.newestFrom es) (es.foldl Run.step r).view := by
  induction es generalizing used r with
  | nil => rwa [Run.newestFrom, List.append_nil]
  | cons e es ih =>
      cases e with
      | loads m => exact ih (stage_loads used r m).1 once
      | completes k outcome =>
          simp only [Run.newestFrom, ← List.append_assoc] at once ⊢
          refine ih (h.completes k outcome fun t ht again => ?_).1 once
          have fresh := (List.nodup_append.mp (List.nodup_append.mp once).1).2.2
          exact fresh t again t (by simp [ht]) rfl

theorem stage_of_run (stream : Stream) {es : List Event} (once : (newestTokens stream es).Nodup) :
    Stage (newestTokens stream es) (run stream es).view := by
  have new : Stage [] (Run.view ⟨.new stream, []⟩) := .idle rfl
  exact new.foldl es once

theorem moves_of_newestTokens (stream : Stream) {before : List Event} {e : Event}
    {after : List Event} (once : (newestTokens stream (before ++ e :: after)).Nodup) :
    Moves (run stream before).view (run stream (before ++ [e])).view e := by
  have tokens : newestTokens stream (before ++ e :: after) =
      newestTokens stream before ++ (run stream before).newestFrom (e :: after) :=
    Run.newestFrom_append _ _ _
  rw [tokens] at once
  obtain ⟨first, -, apart⟩ := List.nodup_append.mp once
  have stage := stage_of_run stream first
  rw [show run stream (before ++ [e]) = (run stream before).step e from List.foldl_append]
  cases e with
  | loads m => exact (stage_loads [] (run stream before) m).2
  | completes k outcome =>
      refine (stage.completes k outcome fun t ht again => ?_).2
      exact apart t again t (by simp [Run.newestFrom, ht]) rfl

/-- If no load gets two outcomes, a view never has a result and an error at once, it goes through
its phases in order, and once it has a result or an error no outcome changes it any more. -/
theorem moves_of_run (stream : Stream) (es : List Event)
    (once : (newestTokens stream es).Nodup) :
    ¬ ((run stream es).view.simulation.isSome ∧ (run stream es).view.error.isSome) ∧
    (∀ before e after, es = before ++ e :: after →
      Moves (run stream before).view (run stream (before ++ [e])).view e) ∧
    ∀ before load outcome after, es = before ++ .completes load outcome :: after →
      (run stream before).view.phase = .result ∨ (run stream before).view.phase = .error →
      (run stream (before ++ [.completes load outcome])).view = (run stream before).view := by
  refine ⟨(stage_of_run stream once).exclusive, fun before e after split => ?_,
    fun before load outcome after split settled => ?_⟩
  · exact moves_of_newestTokens stream (split ▸ once)
  · exact (moves_of_newestTokens stream (split ▸ once)).stays settled

/-- The token of the older load comes again and again, and that of the newer one once in time and
once too late. -/
theorem moves_of_run_overlapping :
    let old : Message := ⟨.empty, some "old", .empty, none⟩
    let new : Message := ⟨.empty, some "new", .empty, none⟩
    let cause : CallError := .fetch (.notJson "end of input")
    let es : List Event :=
      [.loads old, .loads new, .completes 0 (.ok ⟨[old], 1⟩), .completes 1 (.error cause),
        .completes 0 (.ok ⟨[], 2⟩), .loads old, .completes 1 (.ok ⟨[new], 3⟩)]
    let after (n : Nat) : View := (run ⟨"A", "Errors"⟩ (es.take n)).view
    (newestTokens ⟨"A", "Errors"⟩ es).Nodup ∧
      Moves (after 3) (after 4) (.completes 1 (.error cause)) ∧ (after 3).phase = .loading ∧
      after 5 = after 4 ∧ (after 4).phase = .error ∧
      ¬ ((after 7).simulation.isSome ∧ (after 7).error.isSome) := by
  intro old new cause es after
  have once : (newestTokens ⟨"A", "Errors"⟩ es).Nodup := by decide
  obtain ⟨exclusive, moves, stays⟩ := moves_of_run _ es once
  have third := moves (es.take 3) _ (es.drop 4) rfl
  have fourth := stays (es.take 4) _ _ (es.drop 5) rfl (.inr rfl)
  exact ⟨once, third, rfl, fourth, rfl, exclusive⟩

/-- A load that got a result goes on to an error with the same token, and keeps both. -/
theorem result_and_error_of_same_load :
    let m : Message := ⟨.empty, some "i", .empty, none⟩
    let cause : CallError := .fetch (.notJson "end of input")
    let es : List Event := [.loads m, .completes 0 (.ok ⟨[m], 1⟩)]
    let settled := (run ⟨"A", "Errors"⟩ es).view
    let again := (run ⟨"A", "Errors"⟩ (es ++ [.completes 0 (.error cause)])).view
    settled.phase = .result ∧ again.phase = .error ∧
      again.simulation = some ⟨[m], 1⟩ ∧ again.error = some cause := by
  intro m cause es settled again
  exact ⟨rfl, rfl, rfl, rfl⟩

end View
end StreamPipelines
