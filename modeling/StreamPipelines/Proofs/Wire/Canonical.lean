import StreamPipelines.Client
import StreamPipelines.Connection.Basic
import StreamPipelines.Proofs.Wire.RoundTrip
import StreamPipelines.Simulation.Basic

/-!
The canonical form of what travels. All records that are exchanged with the service have lawful
schemas: what is decoded, from whatever form, is encoded into a form that is decoded to the same
value and then encoded into the same form. What is asked of the service, and a connection, comes
back also if it was never decoded. A message does not: a decoration that is there and null is
encoded as none.
-/

namespace StreamPipelines

/-- What is decoded comes back from its encoding, so the encoding is a form that stays. -/
structure Schema.HasCanonicalForm {α : Type} (s : Schema α) : Prop where
  keeps : s.Keeps
  stays : ∀ v w, (s.decode v).map s.encode = .ok w → (s.decode w).map s.encode = .ok w

theorem Schema.Lawful.hasCanonicalForm {α : Type} {s : Schema α} (lawful : s.Lawful) :
    s.HasCanonicalForm := by
  refine ⟨lawful.keeps, fun v w h => ?_⟩
  obtain ⟨a, decoded, rfl⟩ := exists_of_map_eq_ok h
  have back : s.decode (s.encode a) = .ok a := lawful.keeps v a decoded
  rw [back]
  rfl

namespace Row

variable {α ρ : Type} {name : String} {value : Schema α} {rest : Row ρ}

theorem lawful_required (lawful : value.Lawful) (distinct : name ∉ rest.names)
    (others : rest.Lawful) : (Row.required name value rest).Lawful :=
  ⟨lawful, nofun, nofun, distinct, others⟩

theorem lawful_defaulted {absent : α} (lawful : value.Lawful) (standIn : value.RoundTrips absent)
    (distinct : name ∉ rest.names) (others : rest.Lawful) :
    (Row.defaulted name value absent rest).Lawful := by
  refine ⟨lawful, fun a same => ?_, nofun, distinct, others⟩
  cases same
  exact standIn

end Row

theorem Schema.roundTrips_optionText (s : Option String) :
    (Schema.option .text).RoundTrips s := by
  cases s with
  | none => exact roundTrips_none .text
  | some s => exact roundTrips_some (roundTrips_text s) nofun

theorem Schema.roundTrips_texts (ss : List String) : (Schema.list .text).RoundTrips ss :=
  roundTrips_list fun s _ => roundTrips_text s

theorem Connection.lawful_schema : Connection.schema.Lawful := by
  have omitted (s : Option String) (null : (Schema.option .text).encode s = .null) : none = s := by
    cases s with
    | none => rfl
    | some s => cases null
  refine ⟨⟨trivial, fun s same => ?_, fun _ s null => congrArg some (omitted s null), ?_, ?_⟩,
    fun _ => rfl⟩
  · exact Schema.roundTrips_optionText s
  · decide
  · exact Row.lawful_required trivial (by decide)
      (Row.lawful_defaulted trivial (Schema.roundTrips_textSet .empty) (by decide) trivial)

theorem StreamAssignment.lawful_schema : StreamAssignment.schema.Lawful :=
  ⟨Row.lawful_required trivial (by decide) (Row.lawful_required trivial (by decide) trivial),
    fun _ => rfl⟩

theorem PipelineAssignment.lawful_schema : PipelineAssignment.schema.Lawful :=
  ⟨Row.lawful_required trivial (by decide) (Row.lawful_required trivial (by decide) trivial),
    fun _ => rfl⟩

theorem SimulationRequest.lawful_schema : SimulationRequest.schema.Lawful :=
  ⟨Row.lawful_required trivial (by decide) (Row.lawful_required trivial (by decide)
    (Row.lawful_required trivial (by decide) trivial)), fun _ => rfl⟩

theorem Message.lawful_schema : Message.schema.Lawful := by
  have highlights := Schema.roundTrips_table .empty
  have highlightsOrNull : (Schema.nullAs .empty .table).RoundTrips .empty :=
    Schema.roundTrips_nullAs highlights fun _ => rfl
  refine ⟨?_, fun _ => rfl⟩
  refine Row.lawful_required trivial (by decide) ?_
  refine Row.lawful_defaulted trivial (Schema.roundTrips_none .text) (by decide) ?_
  refine Row.lawful_defaulted ⟨trivial, highlights⟩ highlightsOrNull (by decide) ?_
  exact Row.lawful_defaulted trivial (Schema.roundTrips_none .any) (by decide) trivial

theorem Simulation.lawful_schema : Simulation.schema.Lawful :=
  ⟨Row.lawful_required Message.lawful_schema (by decide)
    (Row.lawful_defaulted trivial (Schema.roundTrips_word 0) (by decide) trivial), fun _ => rfl⟩

theorem ErrorBody.lawful_schema : ErrorBody.schema.Lawful :=
  ⟨Row.lawful_required trivial (by decide)
    (Row.lawful_defaulted trivial (Schema.roundTrips_none .text) (by decide) trivial),
    fun _ => rfl⟩

theorem Connection.roundTrips (c : Connection) : Connection.schema.RoundTrips c :=
  Schema.roundTrips_record Connection.lawful_schema.1
    ⟨Schema.roundTrips_optionText c.id, Schema.roundTrips_text c.streamId,
      Schema.roundTrips_textSet c.pipelineIds, trivial⟩ rfl

theorem StreamAssignment.roundTrips (a : StreamAssignment) :
    StreamAssignment.schema.RoundTrips a :=
  Schema.roundTrips_record StreamAssignment.lawful_schema.1
    ⟨Schema.roundTrips_text a.streamId, Schema.roundTrips_texts a.pipelineIds, trivial⟩ rfl

theorem PipelineAssignment.roundTrips (a : PipelineAssignment) :
    PipelineAssignment.schema.RoundTrips a :=
  Schema.roundTrips_record PipelineAssignment.lawful_schema.1
    ⟨Schema.roundTrips_text a.pipelineId, Schema.roundTrips_texts a.streamIds, trivial⟩ rfl

theorem SimulationRequest.roundTrips (r : SimulationRequest) :
    SimulationRequest.schema.RoundTrips r :=
  Schema.roundTrips_record SimulationRequest.lawful_schema.1
    ⟨Schema.roundTrips_text r.streamId, Schema.roundTrips_text r.index,
      Schema.roundTrips_text r.messageId, trivial⟩ rfl

/-- Everything that travels has a canonical form, and all connections and requests come back. -/
theorem hasCanonicalForm_of_wire :
    (Connection.schema.HasCanonicalForm ∧ StreamAssignment.schema.HasCanonicalForm ∧
      PipelineAssignment.schema.HasCanonicalForm ∧ SimulationRequest.schema.HasCanonicalForm ∧
      Simulation.schema.HasCanonicalForm ∧ Message.schema.HasCanonicalForm ∧
      ErrorBody.schema.HasCanonicalForm) ∧
    (∀ c, Connection.schema.decode (Connection.schema.encode c) = .ok c) ∧
    (∀ a, StreamAssignment.schema.decode (StreamAssignment.schema.encode a) = .ok a) ∧
    (∀ a, PipelineAssignment.schema.decode (PipelineAssignment.schema.encode a) = .ok a) ∧
    ∀ r, SimulationRequest.schema.decode (SimulationRequest.schema.encode r) = .ok r :=
  ⟨⟨Connection.lawful_schema.hasCanonicalForm, StreamAssignment.lawful_schema.hasCanonicalForm,
      PipelineAssignment.lawful_schema.hasCanonicalForm,
      SimulationRequest.lawful_schema.hasCanonicalForm, Simulation.lawful_schema.hasCanonicalForm,
      Message.lawful_schema.hasCanonicalForm, ErrorBody.lawful_schema.hasCanonicalForm⟩,
    Connection.roundTrips, StreamAssignment.roundTrips, PipelineAssignment.roundTrips,
    SimulationRequest.roundTrips⟩

/-- The response comes as an array, and of its messages one as an array and one as an object. -/
theorem hasCanonicalForm_of_wire_arrays :
    let v : Json :=
      .arr [.arr [
        .arr [.obj [("_id", .null), ("level", .bool true)], .null, .null],
        .obj [("decoration_stats", .null), ("index", .str "i"), ("message", .obj []),
          ("unknown", .str "x")]]]
    let form : Json :=
      .obj [("messages", .arr [
        .obj [("decoration_stats", .null), ("highlight_ranges", .obj []), ("index", .null),
          ("message", .obj [("_id", .null), ("level", .bool true)])],
        .obj [("decoration_stats", .null), ("highlight_ranges", .obj []), ("index", .str "i"),
          ("message", .obj [])]]),
        ("took_microseconds", .num (.ofWord 0))]
    (Simulation.schema.decode v).map Simulation.schema.encode = .ok form ∧
      (Simulation.schema.decode form).map Simulation.schema.encode = .ok form := by
  intro v form
  have decoded : (Simulation.schema.decode v).map Simulation.schema.encode = .ok form := rfl
  exact ⟨decoded, hasCanonicalForm_of_wire.1.2.2.2.2.1.stays v form decoded⟩

/-- A message with a decoration that is null does not come back. -/
example : Message.schema.decode (Message.schema.encode ⟨.empty, none, .empty, some .null⟩) =
    .ok ⟨.empty, none, .empty, none⟩ :=
  rfl

end StreamPipelines
