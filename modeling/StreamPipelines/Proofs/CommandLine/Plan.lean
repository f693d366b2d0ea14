import StreamPipelines.CommandLine.Program
import StreamPipelines.Proofs.Client

/-!
What a command comes to, written as a plan: the calls of the service, one after the other, each of
them chosen by the answer to the one before, and the outcome behind the last answer or behind the
first response that is none. Each command keeps to its plan. So it sends no call twice and none
behind a call without an answer, and it succeeds if and only if all of its calls have answers.
-/

namespace StreamPipelines
namespace CommandLine

open Dialogue

/-- The calls of a command in their order: what follows an answer, and how it ends without one. -/
inductive Plan : Type 1 where
  | done (outcome : Outcome)
  | call {α : Type} (c : Call α) (answered : α → Plan) (refused : CallError → Outcome)

namespace Plan

/-- Every call that is due has an answer. -/
def IsAnswered : Plan → List Http.Response → Prop
  | .done _, _ => True
  | .call c answered _, responses =>
      ∃ a, c.answer? (responses.headD .closed) = some a ∧ (answered a).IsAnswered responses.tail

/-- The requests that are due: each call's own, once, and behind an answer those that follow. -/
def requests : Plan → List Http.Response → List Request
  | .done _, _ => []
  | .call c answered _, responses =>
      c.request ::
        match c.answer? (responses.headD .closed) with
        | some a => (answered a).requests responses.tail
        | none => []

/-- The outcome is one that the plan has for these responses. -/
def Ends : Plan → List Http.Response → Outcome → Prop
  | .done outcome, _, o => o = outcome
  | .call c answered refused, responses, o =>
      (∃ a, c.answer? (responses.headD .closed) = some a ∧
        (answered a).Ends responses.tail o) ∨
      (c.answer? (responses.headD .closed) = none ∧ ∃ cause, o = refused cause)

end Plan

/-- The dialogue keeps to the plan, apart from what it tells the user. -/
inductive Follows : Dialogue Outcome → Plan → Prop
  | ends (outcome : Outcome) : Follows (.done outcome) (.done outcome)
  | tells (notice : Notice) {rest : Dialogue Outcome} {p : Plan} (h : Follows rest p) :
      Follows (.tell notice rest) p
  | asks {α : Type} {c : Call α} {next : Reply → Dialogue Outcome} {answered : α → Plan}
      {refused : CallError → Outcome}
      (more : ∀ reply a, c.read reply = .ok a → Follows (next reply) (answered a))
      (stops : ∀ reply cause, c.read reply = .error cause →
        Follows (next reply) (.done (refused cause))) :
      Follows (.ask c.request next) (.call c answered refused)

theorem serve_ask {α : Type} {client : Client} {r : Request} {sent : Http.Request}
    (prepared : client.prepare r = .ok sent) (next : Reply → Dialogue α)
    (responses : List Http.Response) :
    (Dialogue.ask r next).serve client responses =
      ((next (sent.receive (responses.headD .closed))).serve client
        responses.tail).addRequest sent := by
  -- Only the left side is opened: cases on what is prepared would set about reading the address.
  conv => lhs; unfold serve
  rw [prepared]
  cases responses <;> rfl

/-- Served to a dialogue that keeps to a plan, responses bring about what the plan says. -/
theorem Follows.serve {client : Client} (ready : client.IsReady) {d : Dialogue Outcome}
    {p : Plan} (h : Follows d p) (responses : List Http.Response) :
    let t := d.serve client responses
    t.requests.map Except.ok = (p.requests responses).map client.prepare ∧
      p.Ends responses t.result := by
  -- By induction on how the dialogue keeps to its plan; each call uses up one response, which is
  -- an answer for the plan exactly if the dialogue reads it as one.
  induction h generalizing responses with
  | ends outcome => exact ⟨rfl, rfl⟩
  | tells notice h ih => exact ih responses
  | @asks _ c next answered refused more stops ihMore ihStops =>
      obtain ⟨sent, prepared⟩ := ready c
      have same := c.toOption_read_receive sent (responses.headD .closed)
      rw [serve_ask prepared]
      simp only [Plan.requests, Plan.Ends, Transcript.addRequest, List.map_cons, prepared]
      cases read : c.read (sent.receive (responses.headD .closed)) with
      | ok a =>
          have answer : c.answer? (responses.headD .closed) = some a := by rw [← same, read]; rfl
          obtain ⟨requests, ends⟩ := ihMore _ a read responses.tail
          rw [answer]
          exact ⟨congrArg (.ok sent :: ·) requests, .inl ⟨a, rfl, ends⟩⟩
      | error cause =>
          have noAnswer : c.answer? (responses.headD .closed) = none := by rw [← same, read]; rfl
          obtain ⟨requests, ends⟩ := ihStops _ cause read responses.tail
          rw [noAnswer]
          exact ⟨congrArg (.ok sent :: ·) requests, .inr ⟨rfl, cause, ends⟩⟩

theorem bind_assoc {α β γ : Type} (d : Dialogue α) (f : α → Dialogue β) (g : β → Dialogue γ) :
    d >>= f >>= g = d >>= fun a => f a >>= g := by
  change (d.bind f).bind g = d.bind fun a => (f a).bind g
  induction d with
  | done a => rfl
  | tell notice rest ih => exact congrArg (Dialogue.tell notice) ih
  | ask r next ih => exact congrArg (Dialogue.ask r) (funext ih)

theorem follows_notify {α : Type} {a : α} {f : α → Dialogue Outcome} {p : Plan}
    (notices : List Notice) (h : Follows (f a) p) :
    Follows ((notify notices >>= fun _ => pure a) >>= f) p := by
  induction notices with
  | nil => exact h
  | cons notice notices ih => exact .tells notice ih

/-- A call is asked, the user is told, and then the dialogue goes on with what the reply gives. -/
theorem follows_ask {α β : Type} {c : Call α} (notices : Reply → List Notice)
    (result : Reply → β) {f : β → Dialogue Outcome} {answered : α → Plan}
    {refused : CallError → Outcome}
    (more : ∀ reply x, c.read reply = .ok x → Follows (f (result reply)) (answered x))
    (stops : ∀ reply cause, c.read reply = .error cause →
      Follows (f (result reply)) (.done (refused cause))) :
    Follows (.ask c.request fun reply =>
      (notify (notices reply) >>= fun _ => pure (result reply)) >>= f)
      (.call c answered refused) :=
  .asks (fun reply x read => follows_notify _ (more reply x read))
    fun reply cause read => follows_notify _ (stops reply cause read)

def failed (cause : CallError) : Outcome :=
  .failed (.call cause)

/-- What is shown of connections. -/
def shown (cs : List Connection) : Outcome :=
  ⟨Connection.overview (some cs), none⟩

/-- What is shown of a message, once its simulation has come to something. -/
def simulated (stream : Stream) (messageId : String) (m : Message)
    (outcome : Except CallError Simulation) : Outcome where
  output := (Panel.ofLoad stream ((Load.ofMessage m).settle outcome)).text
  failure := if outcome.toOption.isNone then some (.simulation messageId) else none

/-- The connections are listed before they are changed, and the message is loaded before it is
simulated. -/
def Command.plan : Command → Plan
  | .list => .call Store.list (fun listed => .done (shown listed)) failed
  | .assignStream a =>
      .call Store.list (fun listed =>
        .call (Store.assignStream a) (fun c => .done (shown (Connection.merge listed c).2)) failed)
        failed
  | .assignPipeline a =>
      .call Store.list (fun listed =>
        .call (Store.assignPipeline a) (fun cs => .done (shown (Connection.mergeAll listed cs).2))
          failed)
        failed
  | .simulate stream title index id =>
      .call (Message.call index id) (fun m =>
        let m := m.withIndex index
        .call (Simulation.call ⟨stream, m.index.getD "", m.id⟩)
          (fun s => .done (simulated ⟨stream, title.getD stream⟩ id m (.ok s)))
          (fun cause => simulated ⟨stream, title.getD stream⟩ id m (.error cause)))
        failed

theorem receive_subscribe {α : Type} (f : Feed α) : (f.receive f.subscribe).1 = .empty := by
  have kept : ¬ f.history.length < f.oldest := by
    unfold Feed.oldest
    omega
  rw [Feed.receive, Feed.subscribe, if_neg kept, List.getElem?_eq_none (Nat.le_refl _)]

theorem receive_publish {α : Type} (f : Feed α) (a : α) :
    ((f.publish a).receive f.subscribe).1 = .item a := by
  have kept : ¬ f.history.length < (f.publish a).oldest := by
    simp only [Feed.oldest, Feed.publish, List.length_append, List.length_singleton,
      Feed.capacity]
    omega
  rw [Feed.receive, Feed.subscribe, if_neg kept, Feed.publish, List.getElem?_concat_length]

theorem currentConnections_subscribe (s : Store) :
    currentConnections s s.published.subscribe = s.connections := by
  unfold currentConnections
  rw [receive_subscribe]

theorem currentConnections_apply (s : Store) (cs : List Connection) :
    currentConnections (s.apply cs) s.published.subscribe = some cs := by
  have published : ((s.apply cs).published.receive s.published.subscribe).1 = .item cs :=
    receive_publish s.published cs
  unfold currentConnections
  rw [published]

theorem follows_perform {α : Type} {c : Call α} {s : Store} {a : Store.Action}
    {f : Except CallError Store.Answer × Store → Dialogue Outcome} {answered : α → Plan}
    {refused : CallError → Outcome} (asked : (s.begin a).1.request = c.request)
    (more : ∀ reply x, c.read reply = .ok x →
      let e := (s.begin a).2.complete (s.begin a).1 reply
      Follows (f (e.result, e.store)) (answered x))
    (stops : ∀ reply cause, c.read reply = .error cause →
      let e := (s.begin a).2.complete (s.begin a).1 reply
      Follows (f (e.result, e.store)) (.done (refused cause))) :
    Follows (perform s a >>= f) (.call c answered refused) := by
  have asks := follows_ask (fun reply => ((s.begin a).2.complete (s.begin a).1 reply).notices)
    (fun reply => (((s.begin a).2.complete (s.begin a).1 reply).result,
      ((s.begin a).2.complete (s.begin a).1 reply).store)) more stops
  rw [← asked] at asks
  exact asks

/-- A dialogue that gives up when a call has no answer. -/
def orFail (next : Store → Dialogue Outcome) :
    Except CallError Store.Answer × Store → Dialogue Outcome
  | (.error cause, _) => pure (failed cause)
  | (.ok _, s) => next s

theorem follows_list {next : Store → Dialogue Outcome} {answered : List Connection → Plan}
    (more : ∀ s cs, s.connections = some cs → Follows (next s) (answered cs)) :
    Follows (perform .new .list >>= orFail next) (.call Store.list answered failed) := by
  refine follows_perform rfl (fun reply cs read => ?_) (fun reply cause read => ?_)
  · simp only [Store.complete, Store.begin, read, Store.completeList]
    exact more _ cs rfl
  · simp only [Store.complete, Store.begin, read, Store.completeList]
    exact .ends _

/-- What is shown once the connections are listed. -/
def afterList : Option Store.Action → Store → Dialogue Outcome
  | none, s => pure (showConnections s s.published.subscribe)
  | some a, s => perform s a >>= orFail fun updated =>
      pure (showConnections updated s.published.subscribe)

theorem runConnections_eq (change : Option Store.Action) :
    runConnections change = perform .new .list >>= orFail (afterList change) := by
  cases change <;> rfl

theorem showConnections_subscribe {s : Store} {cs : List Connection}
    (h : s.connections = some cs) : showConnections s s.published.subscribe = shown cs := by
  rw [showConnections, currentConnections_subscribe, h, shown]

theorem showConnections_applyUpdate {s : Store} {known : List Connection}
    (h : s.connections = some known) (cs : List Connection) :
    showConnections (s.applyUpdate cs) s.published.subscribe =
      shown (Connection.mergeAll known cs).2 := by
  rw [showConnections, Store.applyUpdate, currentConnections_apply, h, shown, Option.getD_some]

theorem follows_assignStream {s : Store} {known : List Connection}
    (h : s.connections = some known) (a : StreamAssignment) :
    Follows (afterList (some (.assignStream a)) s)
      (.call (Store.assignStream a) (fun c => .done (shown (Connection.merge known c).2))
        failed) := by
  refine follows_perform rfl (fun reply c read => ?_) (fun reply cause read => ?_)
  · simp only [Store.complete, Store.begin, read, Store.completeStream, orFail,
      showConnections_applyUpdate h]
    exact .ends _
  · simp only [Store.complete, Store.begin, read, Store.completeStream]
    exact .ends _

theorem follows_assignPipeline {s : Store} {known : List Connection}
    (h : s.connections = some known) (a : PipelineAssignment) :
    Follows (afterList (some (.assignPipeline a)) s)
      (.call (Store.assignPipeline a) (fun cs => .done (shown (Connection.mergeAll known cs).2))
        failed) := by
  refine follows_perform rfl (fun reply cs read => ?_) (fun reply cause read => ?_)
  · simp only [Store.complete, Store.begin, read, Store.completePipeline, orFail,
      showConnections_applyUpdate h]
    exact .ends _
  · simp only [Store.complete, Store.begin, read, Store.completePipeline]
    exact .ends _

theorem follows_loadMessage {index id : String}
    {f : Except CallError Message → Dialogue Outcome} {answered : Message → Plan}
    {refused : CallError → Outcome}
    (more : ∀ m, Follows (f (.ok (m.withIndex index))) (answered m))
    (stops : ∀ cause, Follows (f (.error cause)) (.done (refused cause))) :
    Follows (loadMessage index id >>= f) (.call (Message.call index id) answered refused) := by
  refine follows_ask (fun reply => noticesOfFailure Message.loadFailed
    (Message.load index id reply)) (Message.load index id) (fun reply m read => ?_)
    fun reply cause read => ?_
  · rw [Message.load, read]
    exact more m
  · rw [Message.load, read]
    exact stops cause

theorem follows_simulate {r : SimulationRequest}
    {f : Except CallError Simulation → Dialogue Outcome} {answered : Simulation → Plan}
    {refused : CallError → Outcome} (more : ∀ s, Follows (f (.ok s)) (answered s))
    (stops : ∀ cause, Follows (f (.error cause)) (.done (refused cause))) :
    Follows (simulate r >>= f) (.call (Simulation.call r) answered refused) := by
  refine follows_ask (fun reply => noticesOfFailure Simulation.failed
    ((Simulation.call r).read reply)) (Simulation.call r).read (fun reply s read => ?_)
    fun reply cause read => ?_
  · rw [read]
    exact more s
  · rw [read]
    exact stops cause

/-- The view that shows what a first simulation has come to. -/
theorem showView_complete (stream : Stream) (id : String) (m : Message)
    (outcome : Except CallError Simulation) :
    let (pending, v) := (View.new stream).beginLoad m
    showView (v.complete pending.token outcome).2 id = simulated stream id m outcome := by
  cases outcome <;> rfl

theorem follows_simulateIn (stream : Stream) (id : String) (m : Message) :
    Follows (simulateIn (.new stream) m >>= fun v => pure (showView v id))
      (.call (Simulation.call ⟨stream.id, m.index.getD "", m.id⟩)
        (fun s => .done (simulated stream id m (.ok s)))
        (fun cause => simulated stream id m (.error cause))) := by
  rw [simulateIn, bind_assoc]
  refine follows_simulate (fun s => ?_) fun cause => ?_
  · rw [← showView_complete]
    exact .ends _
  · rw [← showView_complete]
    exact .ends _

/-- Every command keeps to its plan. -/
theorem follows_run (command : Command) : Follows command.run command.plan := by
  cases command with
  | list =>
      rw [Command.run, runConnections_eq]
      refine follows_list fun s cs known => ?_
      rw [afterList, showConnections_subscribe known]
      exact .ends _
  | assignStream a =>
      rw [Command.run, runConnections_eq]
      exact follows_list fun s cs known => follows_assignStream known a
  | assignPipeline a =>
      rw [Command.run, runConnections_eq]
      exact follows_list fun s cs known => follows_assignPipeline known a
  | simulate stream title index id =>
      refine follows_loadMessage (fun m => ?_) fun cause => .ends _
      exact follows_simulateIn _ id (m.withIndex index)

end CommandLine
end StreamPipelines
