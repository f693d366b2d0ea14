import StreamPipelines.Proofs.Wire.Accept
import StreamPipelines.Proofs.Wire.Canonical
import StreamPipelines.Proofs.Wire.Prune

/-!
The response to a simulation, and the messages in it. Both come as an object, in which each field is
found by its name, or as an array, in which it is found by its place. The forms that a field can
have differ from field to field; everything else that an object has is passed over.
-/

namespace StreamPipelines

/-- The message that the values of the fields make, in the order of an array. -/
structure Message.Fields (fields index highlights decoration : Option Json) (m : Message) :
    Prop where
  fields : ∃ ms, fields = some (.obj ms) ∧ Table.ofList ms = m.fields
  index : (index = none ∨ index = some .null) ∧ m.index = none ∨
    ∃ s, index = some (.str s) ∧ m.index = some s
  highlights : (highlights = none ∨ highlights = some .null) ∧ m.highlights = .empty ∨
    ∃ ms, highlights = some (.obj ms) ∧ Table.ofList ms = m.highlights
  decoration : (decoration = none ∨ decoration = some .null) ∧ m.decoration = none ∨
    ∃ v, v ≠ .null ∧ decoration = some v ∧ m.decoration = some v

inductive IsMessage : Json → Message → Prop
  | object {ms : List (String × Json)} {m : Message}
      (once : ∀ name ∈ ["message", "index", "highlight_ranges", "decoration_stats"],
        Json.IsOnce name ms)
      (fields : m.Fields (Table.lookupEntry "message" ms) (Table.lookupEntry "index" ms)
        (Table.lookupEntry "highlight_ranges" ms) (Table.lookupEntry "decoration_stats" ms)) :
      IsMessage (.obj ms) m
  | array {vs : List Json} {m : Message} (short : vs.length ≤ 4)
      (fields : m.Fields vs[0]? vs[1]? vs[2]? vs[3]?) : IsMessage (.arr vs) m

/-- The simulation that the values of the fields make, in the order of an array. -/
structure Simulation.Fields (messages took : Option Json) (s : Simulation) : Prop where
  messages : ∃ vs, messages = some (.arr vs) ∧ List.Forall₂ IsMessage vs s.messages
  took : took = none ∧ s.micros = 0 ∨
    ∃ i isWord, took = some (.num (.int i isWord)) ∧ 0 ≤ i ∧ i < 0x10000000000000000 ∧
      s.micros.toNat = i

inductive IsSimulation : Json → Simulation → Prop
  | object {ms : List (String × Json)} {s : Simulation}
      (once : ∀ name ∈ ["messages", "took_microseconds"], Json.IsOnce name ms)
      (fields : s.Fields (Table.lookupEntry "messages" ms)
        (Table.lookupEntry "took_microseconds" ms)) : IsSimulation (.obj ms) s
  | array {vs : List Json} {s : Simulation} (short : vs.length ≤ 2)
      (fields : s.Fields vs[0]? vs[1]?) : IsSimulation (.arr vs) s

theorem Message.fields_iff {f i h d : Option Json} {m : Message} :
    (Holds Schema.table.Accepts none f m.fields ∧
      Holds (Schema.option .text).Accepts (some none) i m.index ∧
      Holds (Schema.nullAs .empty .table).Accepts (some .empty) h m.highlights ∧
      Holds (Schema.option .any).Accepts (some none) d m.decoration) ↔ m.Fields f i h d := by
  have table (v : Json) (t : Table Json) :
      Schema.table.Accepts v t ↔ ∃ ms, v = .obj ms ∧ Table.ofList ms = t := Iff.rfl
  have text (v : Json) (s : String) : Schema.text.Accepts v s ↔ v = .str s := Iff.rfl
  have any (v w : Json) : Schema.any.Accepts v w ↔ v = w := Iff.rfl
  have fields : Holds Schema.table.Accepts none f m.fields ↔
      ∃ ms, f = some (.obj ms) ∧ Table.ofList ms = m.fields := by
    cases f with
    | none => simp [holds_none_iff]
    | some v => simp [holds_some_iff, table]
  have index : Holds (Schema.option .text).Accepts (some none) i m.index ↔
      (i = none ∨ i = some .null) ∧ m.index = none ∨
        ∃ s, i = some (.str s) ∧ m.index = some s := by
    simp [holds_option_iff, text]
  have highlights :
      Holds (Schema.nullAs .empty .table).Accepts (some .empty) h m.highlights ↔
        (h = none ∨ h = some .null) ∧ m.highlights = .empty ∨
          ∃ ms, h = some (.obj ms) ∧ Table.ofList ms = m.highlights := by
    simp [holds_nullAs_iff, table]
  have decoration : Holds (Schema.option .any).Accepts (some none) d m.decoration ↔
      (d = none ∨ d = some .null) ∧ m.decoration = none ∨
        ∃ v, v ≠ .null ∧ d = some v ∧ m.decoration = some v := by
    simp [holds_option_iff, any]
  rw [fields, index, highlights, decoration]
  constructor
  · rintro ⟨fields, index, highlights, decoration⟩
    exact ⟨fields, index, highlights, decoration⟩
  · rintro ⟨fields, index, highlights, decoration⟩
    exact ⟨fields, index, highlights, decoration⟩

theorem accepts_message_iff {v : Json} {m : Message} :
    Message.schema.Accepts v m ↔ IsMessage v m := by
  refine (Schema.accepts_record_iff (fun _ => rfl) rfl).trans ?_
  constructor
  · rintro (⟨vs, rfl, fields, index, highlights, decoration, short⟩ |
      ⟨ms, rfl, once, fields, index, highlights, decoration, -⟩)
    · exact .array short (Message.fields_iff.mp ⟨fields, index, highlights, decoration⟩)
    · exact .object once (Message.fields_iff.mp ⟨fields, index, highlights, decoration⟩)
  · intro message
    cases message with
    | array short fields =>
        obtain ⟨fields, index, highlights, decoration⟩ := Message.fields_iff.mpr fields
        exact .inl ⟨_, rfl, fields, index, highlights, decoration, short⟩
    | object once fields =>
        obtain ⟨fields, index, highlights, decoration⟩ := Message.fields_iff.mpr fields
        exact .inr ⟨_, rfl, once, fields, index, highlights, decoration, trivial⟩

theorem Simulation.fields_iff {messages took : Option Json} {s : Simulation} :
    (Holds (Schema.list Message.schema).Accepts none messages s.messages ∧
      Holds Schema.word.Accepts (some 0) took s.micros) ↔ s.Fields messages took := by
  have list (v : Json) (ms : List Message) : (Schema.list Message.schema).Accepts v ms ↔
      ∃ vs, v = .arr vs ∧ List.Forall₂ Message.schema.Accepts vs ms := Iff.rfl
  have word (v : Json) (w : UInt64) : Schema.word.Accepts v w ↔ v = .num (.ofWord w) := Iff.rfl
  have each : Message.schema.Accepts = IsMessage :=
    funext₂ fun _ _ => propext accepts_message_iff
  have outcome : Holds (Schema.list Message.schema).Accepts none messages s.messages ↔
      ∃ vs, messages = some (.arr vs) ∧ List.Forall₂ IsMessage vs s.messages := by
    cases messages with
    | none => simp [holds_none_iff]
    | some v => simp [holds_some_iff, list, each]
  have time : Holds Schema.word.Accepts (some 0) took s.micros ↔
      took = none ∧ s.micros = 0 ∨ ∃ i isWord, took = some (.num (.int i isWord)) ∧ 0 ≤ i ∧
        i < 0x10000000000000000 ∧ s.micros.toNat = i := by
    have small := s.micros.toNat_lt
    cases took with
    | none => simp [holds_none_iff, eq_comm]
    | some v =>
        simp only [holds_some_iff, word, reduceCtorEq, false_and, Option.some.injEq, false_or]
        constructor
        · rintro rfl
          exact ⟨s.micros.toNat, isWord_toNat s.micros, rfl, by omega, by omega, rfl⟩
        · rintro ⟨i, isWord, rfl, -, -, rfl⟩
          rfl
  rw [outcome, time]
  constructor
  · rintro ⟨outcome, time⟩
    exact ⟨outcome, time⟩
  · rintro ⟨outcome, time⟩
    exact ⟨outcome, time⟩

theorem accepts_simulation_iff {v : Json} {s : Simulation} :
    Simulation.schema.Accepts v s ↔ IsSimulation v s := by
  refine (Schema.accepts_record_iff (fun _ => rfl) rfl).trans ?_
  constructor
  · rintro (⟨vs, rfl, messages, took, short⟩ | ⟨ms, rfl, once, messages, took, -⟩)
    · exact .array short (Simulation.fields_iff.mp ⟨messages, took⟩)
    · exact .object once (Simulation.fields_iff.mp ⟨messages, took⟩)
  · intro simulation
    cases simulation with
    | array short fields =>
        obtain ⟨messages, took⟩ := Simulation.fields_iff.mpr fields
        exact .inl ⟨_, rfl, messages, took, short⟩
    | object once fields =>
        obtain ⟨messages, took⟩ := Simulation.fields_iff.mpr fields
        exact .inr ⟨_, rfl, once, messages, took, trivial⟩

/-- A response is decoded to the simulation that its form makes, and not at all if it has none of
the forms; the members that are not named, those of its messages included, have no part in it. -/
theorem decode_simulation_iff (v : Json) :
    (∀ s, Simulation.schema.decode v = .ok s ↔ IsSimulation v s) ∧
      Simulation.schema.decode (Simulation.schema.prune v) = Simulation.schema.decode v := by
  refine ⟨fun s => ?_, Simulation.schema.decode_prune v⟩
  rw [← accepts_simulation_iff]
  exact Simulation.lawful_schema.isExact v s

/-- Only the content of a message is kept with all its members. -/
example :
    Simulation.schema.prune
      (.obj [("trace", .arr []),
        ("messages", .arr [.obj [("score", .null), ("message", .obj [("score", .null)])]])]) =
      .obj [("messages", .arr [.obj [("message", .obj [("score", .null)])]])] :=
  rfl

end StreamPipelines
