import StreamPipelines.Proofs.CommandLine.Plan

/-!
How the program ends, told from the responses alone. It succeeds if and only if every call of its
command has an answer, and then shows the connections as the answers make them, or the simulation.
When it fails it shows nothing, save the loaded message beside an error if only the simulation had
no answer.
-/

namespace StreamPipelines
namespace CommandLine

/-- Behind the last answer the plan ends well, and without an answer in a failure. -/
def Plan.IsHonest : Plan → Prop
  | .done outcome => outcome.failure = none
  | .call _ answered refused =>
      (∀ a, (answered a).IsHonest) ∧ ∀ cause, (refused cause).failure.isSome = true

theorem Plan.IsHonest.failure_eq_none_iff {p : Plan} (h : p.IsHonest)
    {responses : List Http.Response} {o : Outcome} (ends : p.Ends responses o) :
    o.failure = none ↔ p.IsAnswered responses := by
  induction p generalizing responses with
  | done outcome =>
      cases ends
      exact iff_of_true h trivial
  | call c answered refused ih =>
      obtain ⟨a, answer, ends⟩ | ⟨noAnswer, cause, rfl⟩ := ends
      · rw [ih a (h.1 a) ends]
        simp only [IsAnswered, answer, Option.some.injEq, exists_eq_left']
      · have failed := h.2 cause
        simp only [IsAnswered, noAnswer, reduceCtorEq, false_and, exists_false, iff_false]
        rintro none
        rw [none] at failed
        cases failed

theorem Command.isHonest_plan (command : Command) : command.plan.IsHonest := by
  cases command with
  | list => exact ⟨fun _ => rfl, fun _ => rfl⟩
  | assignStream a | assignPipeline a =>
      exact ⟨fun _ => ⟨fun _ => rfl, fun _ => rfl⟩, fun _ => rfl⟩
  | simulate stream title index id =>
      exact ⟨fun _ => ⟨fun _ => rfl, fun _ => rfl⟩, fun _ => rfl⟩

section

variable {arguments : List String} {env : Environment} {a : Arguments} {config : Config}
variable (parsed : Arguments.parse arguments = some a)
variable (configured : a.options.config env = .ok config)
include parsed configured

/-- A run of the program sends what the plan of its command says, and ends as it says. -/
theorem serve_start (responses : List Http.Response) :
    ∃ requests notices outcome,
      (start arguments env).serve responses = (requests, .finished notices outcome) ∧
      requests.map Except.ok =
        (a.command.plan.requests responses).map (Client.ofConfig config).prepare ∧
      a.command.plan.Ends responses outcome := by
  have ready : (Client.ofConfig config).IsReady :=
    Client.isReady_of_wellFormed (Options.wellFormed_of_config configured)
  have begun : start arguments env = .running (.ofConfig config) a.command.run := by
    simp only [start, parsed, configured]
  obtain ⟨requests, ends⟩ := (follows_run a.command).serve ready responses
  exact ⟨_, _, _, by rw [begun]; rfl, requests, ends⟩

end

/-- What the program is configured to when nothing is given and no variable is set. -/
def unsetConfig : Config where
  baseUrl := ⟨.http, [], none, .ipv4 0x7f000001, some 9000, [['a', 'p', 'i']], none, none⟩
  username := none
  password := none
  timeoutSeconds := 30

theorem config_unset : Options.config ⟨none, none, none, none⟩ .empty = .ok unsetConfig := by
  decide +kernel

/-- The message that a command has loaded in order to simulate it. -/
def Command.loaded? : Command → List Http.Response → Option Message
  | .simulate _ _ index id, responses =>
      ((Message.call index id).answer? (responses.headD .closed)).map (·.withIndex index)
  | .list, _ | .assignStream _, _ | .assignPipeline _, _ => none

/-- The panel beside a simulation that failed: the message, an error and nothing else. -/
structure ShowsError (p : Panel) (m : Message) : Prop where
  loaded : p.loaded = some m
  error : p.error.isSome = true
  simulation : p.simulation = .empty
  changes : p.changes = []

/-- What is printed by a command that fails. -/
inductive FailedOutput : Option Message → String → Prop
  | nothing : FailedOutput none ""
  | panel {m : Message} {p : Panel} (h : ShowsError p m) : FailedOutput (some m) p.text

theorem failedOutput_of_ends {command : Command} {responses : List Http.Response} {o : Outcome}
    (ends : command.plan.Ends responses o) (failed : o.failure ≠ none) :
    FailedOutput (command.loaded? responses) o.output := by
  cases command with
  | list =>
      obtain ⟨cs, -, rfl⟩ | ⟨-, cause, rfl⟩ := ends
      · exact absurd rfl failed
      · exact .nothing
  | assignStream a | assignPipeline a =>
      obtain ⟨cs, -, ⟨c, -, rfl⟩ | ⟨-, cause, rfl⟩⟩ | ⟨-, cause, rfl⟩ := ends
      · exact absurd rfl failed
      · exact .nothing
      · exact .nothing
  | simulate stream title index id =>
      obtain ⟨m, answer, ⟨s, -, rfl⟩ | ⟨-, cause, rfl⟩⟩ | ⟨noAnswer, cause, rfl⟩ := ends
      · exact absurd rfl failed
      · rw [Command.loaded?, answer]
        exact .panel ⟨rfl, rfl, rfl, rfl⟩
      · rw [Command.loaded?, noAnswer]
        exact .nothing

theorem exitStatus_finished (notices : List Notice) (o : Outcome) :
    (Ending.finished notices o).exitStatus = 0 ↔ o.failure = none := by
  cases failure : o.failure <;> simp [Ending.exitStatus, failure]

/-- The program succeeds if and only if every call of its command has an answer. It sends each call
once, and none behind a call without an answer. The responses are the final ones to the requests,
behind the redirects that the HTTP library follows. -/
theorem exitStatus_eq_zero_iff {arguments : List String} {env : Environment} {a : Arguments}
    {config : Config} (parsed : Arguments.parse arguments = some a)
    (configured : a.options.config env = .ok config) (responses : List Http.Response) :
    let served := (start arguments env).serve responses
    (served.2.exitStatus = 0 ↔ a.command.plan.IsAnswered responses) ∧
      served.1.map Except.ok =
        (a.command.plan.requests responses).map (Client.ofConfig config).prepare ∧
      (served.2.exitStatus ≠ 0 →
        FailedOutput (a.command.loaded? responses) served.2.output) := by
  obtain ⟨requests, notices, o, served, sent, ends⟩ := serve_start parsed configured responses
  rw [served]
  refine ⟨?_, sent, fun failed => ?_⟩
  · rw [exitStatus_finished]
    exact a.command.isHonest_plan.failure_eq_none_iff ends
  · rw [ne_eq, exitStatus_finished] at failed
    exact failedOutput_of_ends ends failed

/-- Loading the message succeeds and simulating it does not: two requests and the panel. -/
theorem exitStatus_eq_zero_iff_failed_simulation :
    let arguments := ["simulate", "--stream", "s", "--index=i", "--message-id", "m"]
    let a : Arguments := ⟨⟨none, none, none, none⟩, .simulate "s" none "i" "m"⟩
    let responses : List Http.Response :=
      [.answer ⟨200⟩ (Text.utf8 "[\x7b\"_id\":\"m\"\x7d]"), .answer ⟨500⟩ []]
    let m : Message := ⟨.ofList [("_id", .str "m")], some "i", .empty, none⟩
    let served := (start arguments .empty).serve responses
    Arguments.parse arguments = some a ∧ a.options.config .empty = .ok unsetConfig ∧
      served.1.length = 2 ∧ served.2.exitStatus ≠ 0 ∧
      ∃ p, ShowsError p m ∧ served.2.output = p.text := by
  intro arguments a responses m served
  have parsed : Arguments.parse arguments = some a := by decide +kernel
  have loaded : a.command.loaded? responses = some m := by decide +kernel
  obtain ⟨succeeds, sent, fails⟩ := exitStatus_eq_zero_iff parsed config_unset responses
  have failed : served.2.exitStatus ≠ 0 := by
    intro zero
    obtain ⟨_, -, _, answer, -⟩ := succeeds.mp zero
    cases answer
  have requests : (a.command.plan.requests responses).length = 2 := by decide +kernel
  have two := congrArg List.length sent
  rw [List.length_map, List.length_map, requests] at two
  refine ⟨parsed, config_unset, two, failed, ?_⟩
  have output := fails failed
  rw [loaded] at output
  generalize served.2.output = text at output ⊢
  cases output with
  | panel h => exact ⟨_, h, rfl⟩

theorem Plan.ends_call_iff {α : Type} {c : Call α} {answered : α → Plan}
    {refused : CallError → Outcome} {responses : List Http.Response} {o : Outcome} {x : α}
    (answer : c.answer? (responses.headD .closed) = some x) :
    (Plan.call c answered refused).Ends responses o ↔ (answered x).Ends responses.tail o := by
  simp only [Ends, answer, Option.some.injEq, exists_eq_left', reduceCtorEq, false_and, or_false]

/-- The connections are shown as the answers make them, and what is shown, from the feed or from
the store, is all that the store knows in the end. -/
theorem output_eq_overview {arguments : List String} {env : Environment} {a : Arguments}
    {config : Config} (parsed : Arguments.parse arguments = some a)
    (configured : a.options.config env = .ok config) {responses : List Http.Response}
    {listed : List Connection}
    (answered : Store.list.answer? (responses.headD .closed) = some listed) :
    let ending := ((start arguments env).serve responses).2
    (a.command = .list → ending.output = Connection.overview (some listed)) ∧
      (∀ s c, a.command = .assignStream s →
        (Store.assignStream s).answer? (responses.tail.headD .closed) = some c →
          ending.output = Connection.overview (some (Connection.merge listed c).2)) ∧
      (∀ p cs, a.command = .assignPipeline p →
        (Store.assignPipeline p).answer? (responses.tail.headD .closed) = some cs →
          ending.output = Connection.overview (some (Connection.mergeAll listed cs).2)) ∧
      ∀ s : Store, currentConnections s s.published.subscribe = s.connections ∧
        ∀ cs, currentConnections (s.applyUpdate cs) s.published.subscribe =
          (s.applyUpdate cs).connections := by
  obtain ⟨requests, notices, o, served, -, ends⟩ := serve_start parsed configured responses
  rw [served]
  refine ⟨fun command => ?_, fun s c command answer => ?_, fun p cs command answer => ?_,
    fun s => ⟨currentConnections_subscribe s, fun cs => currentConnections_apply s _⟩⟩
  · rw [command, Command.plan, Plan.ends_call_iff answered] at ends
    cases ends
    rfl
  · rw [command, Command.plan, Plan.ends_call_iff answered, Plan.ends_call_iff answer] at ends
    cases ends
    rfl
  · rw [command, Command.plan, Plan.ends_call_iff answered, Plan.ends_call_iff answer] at ends
    cases ends
    rfl

/-- Of two connections for one stream the later one is shown, in the place of the listed one. -/
theorem output_eq_overview_repeated_stream :
    let arguments := ["connections", "to-pipeline", "--pipeline", "p", "--stream", "a",
      "--stream", "b"]
    let a : Arguments := ⟨⟨none, none, none, none⟩, .assignPipeline ⟨"p", ["a", "b"]⟩⟩
    let responses : List Http.Response :=
      [.answer ⟨200⟩ (Text.utf8 "[[null,\"b\",[\"old\"]]]"),
        .answer ⟨200⟩ (Text.utf8 "[[null,\"a\",[\"p\"]],[null,\"b\",[]],[null,\"b\",[\"p\"]]]")]
    let ending := ((start arguments .empty).serve responses).2
    Arguments.parse arguments = some a ∧ a.options.config .empty = .ok unsetConfig ∧
      Store.list.answer? (responses.headD .closed) =
        some [⟨none, "b", .ofList ["old"]⟩] ∧
      (Store.assignPipeline ⟨"p", ["a", "b"]⟩).answer? (responses.tail.headD .closed) =
        some [⟨none, "a", .ofList ["p"]⟩, ⟨none, "b", .ofList []⟩, ⟨none, "b", .ofList ["p"]⟩] ∧
      ending.output = "b -> p\na -> p\n" := by
  intro arguments a responses ending
  have parsed : Arguments.parse arguments = some a := by decide +kernel
  have listed : Store.list.answer? (responses.headD .closed) =
      some [⟨none, "b", .ofList ["old"]⟩] := by decide +kernel
  have updated : (Store.assignPipeline ⟨"p", ["a", "b"]⟩).answer?
      (responses.tail.headD .closed) =
        some [⟨none, "a", .ofList ["p"]⟩, ⟨none, "b", .ofList []⟩, ⟨none, "b", .ofList ["p"]⟩] := by
    decide +kernel
  obtain ⟨-, -, shown, -⟩ := output_eq_overview parsed config_unset listed
  exact ⟨parsed, config_unset, listed, updated, (shown _ _ rfl updated).trans (by decide +kernel)⟩

end CommandLine
end StreamPipelines
