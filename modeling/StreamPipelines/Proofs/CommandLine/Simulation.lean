import StreamPipelines.Proofs.CommandLine.Outcome

/-!
Which message a simulation is asked for. The message that was loaded says it: its index, or else
the one that it was loaded from, and its own id. So the id that was asked for is used if the loaded
message has it; a message without an id is simulated under an empty one, though its index is
completed from what was asked.
-/

namespace StreamPipelines

theorem Message.id_of_get? {m : Message} {id : String}
    (h : m.fields.get? "_id" = some (.str id)) : m.id = id := by
  rw [Message.id, fieldText?, h]
  rfl

/-- The body that asks for the simulation of a message on a stream. -/
def SimulationRequest.body (stream index messageId : String) : Json :=
  .ofTable (.ofList [("stream_id", .str stream), ("index", .str index),
    ("message_id", .str messageId)])

theorem Client.body_of_prepare {client : Client} {r : Request} {sent : Http.Request}
    (prepared : client.prepare r = .ok sent) : sent.body = r.body.map Json.text := by
  obtain ⟨url, -, rfl⟩ := exists_of_map_eq_ok prepared
  rfl

namespace CommandLine

theorem Plan.requests_call {α : Type} {c : Call α} {answered : α → Plan}
    {refused : CallError → Outcome} {responses : List Http.Response} {x : α}
    (answer : c.answer? (responses.headD .closed) = some x) :
    (Plan.call c answered refused).requests responses =
      c.request :: (answered x).requests responses.tail := by
  simp only [requests, answer]

theorem exists_of_map_ok {requests : List Http.Request}
    {first second : Except FetchError Http.Request} (h : requests.map Except.ok = [first, second]) :
    ∃ load simulate, requests = [load, simulate] ∧ first = .ok load ∧ second = .ok simulate := by
  obtain ⟨load, rest, rfl, rfl, others⟩ := List.map_eq_cons_iff.mp h
  obtain ⟨simulate, rest, rfl, rfl, none⟩ := List.map_eq_cons_iff.mp others
  cases List.map_eq_nil_iff.mp none
  exact ⟨load, simulate, rfl, rfl, rfl⟩

section

variable {arguments : List String} {env : Environment} {options : Options} {config : Config}
variable {stream index id : String} {title : Option String}
variable {responses : List Http.Response} {m : Message}

theorem requests_plan_of_loaded
    (loaded : (Message.call index id).answer? (responses.headD .closed) = some m) :
    (Command.simulate stream title index id).plan.requests responses =
      [(Message.call index id).request, ⟨.post, Endpoint.simulate.path,
        some (SimulationRequest.body stream (m.index.getD index) m.id)⟩] := by
  rw [Command.plan, Plan.requests_call loaded, Plan.requests]
  split <;> rfl

/-- Once a message is loaded, the simulation is asked for under the id that the message has. -/
theorem requests_of_loaded
    (parsed : Arguments.parse arguments = some ⟨options, .simulate stream title index id⟩)
    (configured : options.config env = .ok config)
    (loaded : (Message.call index id).answer? (responses.headD .closed) = some m) :
    let body := SimulationRequest.body stream (m.index.getD index) m.id
    let client := Client.ofConfig config
    ∃ load simulate, ((start arguments env).serve responses).1 = [load, simulate] ∧
      client.prepare (Message.call index id).request = .ok load ∧
      client.prepare ⟨.post, Endpoint.simulate.path, some body⟩ = .ok simulate ∧
      simulate.body = some body.text := by
  obtain ⟨requests, notices, o, served, sent, -⟩ := serve_start parsed configured responses
  rw [requests_plan_of_loaded loaded] at sent
  obtain ⟨load, simulate, rfl, first, second⟩ := exists_of_map_ok sent
  rw [served]
  exact ⟨load, simulate, rfl, first, second, Client.body_of_prepare second⟩

/-- A message that has the id that was asked for is the one that is simulated, in its own index or
else in the one that was asked for. -/
theorem body_of_simulation
    (parsed : Arguments.parse arguments = some ⟨options, .simulate stream title index id⟩)
    (configured : options.config env = .ok config)
    (loaded : (Message.call index id).answer? (responses.headD .closed) = some m)
    (named : m.fields.get? "_id" = some (.str id)) :
    let body := SimulationRequest.body stream (m.index.getD index) id
    let client := Client.ofConfig config
    ∃ load simulate, ((start arguments env).serve responses).1 = [load, simulate] ∧
      client.prepare (Message.call index id).request = .ok load ∧
      client.prepare ⟨.post, Endpoint.simulate.path, some body⟩ = .ok simulate ∧
      simulate.body = some body.text := by
  have requests := requests_of_loaded parsed configured loaded
  rwa [Message.id_of_get? named] at requests

end

/-- The reply comes as an array and names an index of its own. -/
theorem body_of_simulation_other_index :
    let arguments := ["simulate", "--stream", "s", "--index=i", "--message-id", "m"]
    let options : Options := ⟨none, none, none, none⟩
    let responses : List Http.Response :=
      [.answer ⟨200⟩ (Text.utf8 "[\x7b\"_id\":\"m\"\x7d,\"other\"]")]
    let m : Message := ⟨.ofList [("_id", .str "m")], some "other", .empty, none⟩
    Arguments.parse arguments = some ⟨options, .simulate "s" none "i" "m"⟩ ∧
      options.config .empty = .ok unsetConfig ∧
      (Message.call "i" "m").answer? (responses.headD .closed) = some m ∧
      m.fields.get? "_id" = some (.str "m") ∧
      ∃ load simulate, ((start arguments .empty).serve responses).1 = [load, simulate] ∧
        simulate.body = some (SimulationRequest.body "s" "other" "m").text := by
  intro arguments options responses m
  have parsed : Arguments.parse arguments = some ⟨options, .simulate "s" none "i" "m"⟩ := by
    decide +kernel
  have loaded : (Message.call "i" "m").answer? (responses.headD .closed) = some m := by
    decide +kernel
  have named : m.fields.get? "_id" = some (.str "m") := by decide +kernel
  obtain ⟨load, simulate, requests, -, -, body⟩ :=
    body_of_simulation parsed config_unset loaded named
  exact ⟨parsed, config_unset, loaded, named, load, simulate, requests, body⟩

/-- The loaded message has no id: the simulation is asked for under an empty one. -/
theorem body_of_simulation_without_id :
    let arguments := ["simulate", "--stream", "s", "--index=i", "--message-id", "m"]
    let options : Options := ⟨none, none, none, none⟩
    let responses : List Http.Response := [.answer ⟨200⟩ (Text.utf8 "[\x7b\x7d]")]
    let m : Message := ⟨.empty, none, .empty, none⟩
    Arguments.parse arguments = some ⟨options, .simulate "s" none "i" "m"⟩ ∧
      options.config .empty = .ok unsetConfig ∧
      (Message.call "i" "m").answer? (responses.headD .closed) = some m ∧
      m.fields.get? "_id" = none ∧
      ((start arguments .empty).serve responses).1.map (·.body) =
        [none, some (SimulationRequest.body "s" "i" "").text] ∧
      SimulationRequest.body "s" "i" "" ≠ SimulationRequest.body "s" "i" "m" := by
  decide +kernel

end CommandLine
end StreamPipelines
