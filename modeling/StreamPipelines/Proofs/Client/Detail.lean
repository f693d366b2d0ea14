import StreamPipelines.Proofs.Client.ErrorBody
import StreamPipelines.Proofs.Text.Trimming

/-!
What a response of a bad status is taken to say. A body that tells something is heard, and that is
all of the detail, however long it is. Every other body is quoted: without the blank characters at
its ends, whole if it is short and else its beginning with an ellipsis.
-/

namespace StreamPipelines

open Json (IsObject IsString IsValue)
open ErrorBody (Tells)

/-- The trimmed body, whole or cut behind its two-hundredth character. -/
def IsExcerpt (body detail : String) : Prop :=
  ∃ kept, IsTrimmed Text.isBlank body.toList kept ∧
    detail.toList = if kept.length ≤ 200 then kept else kept.take 200 ++ ['…']

theorem IsExcerpt.length_le {body detail : String} (h : IsExcerpt body detail) :
    detail.length ≤ 201 := by
  obtain ⟨kept, -, text⟩ := h
  rw [← String.length_toList, text]
  split
  · omega
  · rw [List.length_append, List.length_take, List.length_singleton]
    omega

theorem errorDetail_of_tells {body message : String} (tells : Tells body.toList message) :
    errorDetail body = message := by
  obtain ⟨b, parsed, rfl⟩ := ErrorBody.parse_iff.mpr tells
  rw [errorDetail, parsed]

theorem isExcerpt_errorDetail {body : String} (silent : ¬∃ message, Tells body.toList message) :
    IsExcerpt body (errorDetail body) := by
  refine ⟨_, isTrimmed_stripChars Text.isBlank body.toList, ?_⟩
  rw [errorDetail]
  split
  · rename_i b parsed
    exact absurd ⟨b.message, ErrorBody.parse_iff.mp ⟨b, parsed, rfl⟩⟩ silent
  · simp only [Text.trim, String.toList_ofList, longestDetail]
    split <;> exact String.toList_ofList

/-- An object without repeated names tells its message if that is a string, and so is its type, if
it has one that is not null. -/
theorem tells_of_nodup {body : List Char} {members : List (String × List Char)} {v : List Char}
    {message : String} (object : IsObject body members) (unique : (members.map (·.1)).Nodup)
    (mem : ("message", v) ∈ members) (string : IsString v message)
    (kind : ∀ w, ("type", w) ∈ members → ∃ text, IsNullable w text) : Tells body message := by
  have single {vs : List (List Char)} {w : List Char} (few : vs.length ≤ 1) (mem : w ∈ vs) :
      vs = [w] := by
    match vs, few, mem with
    | [_], _, .head _ => rfl
  refine .object object ⟨v, single (ErrorBody.length_valuesOf_le _ unique)
    (ErrorBody.mem_valuesOf_iff.mpr mem), string⟩ ?_
  cases values : ErrorBody.valuesOf "type" members with
  | nil => exact .inl rfl
  | cons w more =>
      have mem : w ∈ ErrorBody.valuesOf "type" members := by
        rw [values]
        exact List.mem_cons_self
      obtain ⟨text, nullable⟩ := kind w (ErrorBody.mem_valuesOf_iff.mp mem)
      rw [← values, single (ErrorBody.length_valuesOf_le _ unique) mem]
      exact .inr ⟨w, text, rfl, nullable⟩

/-- Every response of a bad status is told as such, with a detail. If the body is an object without
repeated names that has a string for a message, and a type that is null or a string if it has one,
the detail is that message, whatever else the object has; so it is for every other body that tells
something. A body that tells nothing is quoted, in at most 201 characters. -/
theorem detail_of_badStatus {status : Http.Status} (failed : status.isSuccess = false)
    (body : String) :
    ∃ detail, readBody status body = .error (.badStatus status detail) ∧
      (∀ members v message, IsObject body.toList members → (members.map (·.1)).Nodup →
        ("message", v) ∈ members → IsString v message →
        (∀ w, ("type", w) ∈ members → ∃ text, IsNullable w text) → detail = message) ∧
      (∀ message, Tells body.toList message → detail = message) ∧
      ((¬∃ message, Tells body.toList message) → IsExcerpt body detail ∧ detail.length ≤ 201) := by
  refine ⟨errorDetail body, by rw [readBody, failed]; rfl, ?_, fun _ => errorDetail_of_tells,
    fun silent => ?_⟩
  · intro members v message object unique mem string kind
    exact errorDetail_of_tells (tells_of_nodup object unique mem string kind)
  · exact ⟨isExcerpt_errorDetail silent, (isExcerpt_errorDetail silent).length_le⟩

/-- A message outside ASCII, and a nested member with an exponent and half of a surrogate pair. -/
theorem detail_of_badStatus_nested :
    let more := "[-1.5e+3,\x7b\"a\":\"\\ud83d\"\x7d]".toList
    let body := "\x7b\"message\":\"größer als 5 µs\",\"x\":" ++ String.ofList more ++ "\x7d"
    let members := [("message", "\"größer als 5 µs\"".toList), ("x", more)]
    (⟨502⟩ : Http.Status).isSuccess = false ∧ IsObject body.toList members ∧
      (members.map (·.1)).Nodup ∧
      readBody ⟨502⟩ body = .error (.badStatus ⟨502⟩ "größer als 5 µs") := by
  intro more body members
  have failed : (⟨502⟩ : Http.Status).isSuccess = false := by decide
  have message : IsString "\"größer als 5 µs\"".toList "größer als 5 µs" := by decide +kernel
  have key : IsString "\"message\"".toList "message" := by decide +kernel
  have otherKey : IsString "\"x\"".toList "x" := by decide +kernel
  have nested : IsValue more := by decide +kernel
  have object : IsObject body.toList members :=
    Json.isObject_pair key message.isValue otherKey nested (by decide +kernel)
  have unique : (members.map (·.1)).Nodup := by decide
  have noKind : ∀ w, ("type", w) ∈ members → ∃ text, IsNullable w text := by simp [members]
  obtain ⟨detail, told, heard, -⟩ := detail_of_badStatus failed body
  refine ⟨failed, object, unique, ?_⟩
  rw [told, heard members _ _ object unique List.mem_cons_self message noKind]

/-- A type that is a number: the whole body is shown, and the message is not heard. -/
theorem readBody_of_numericType :
    let body := "\x7b\"message\":\"Unable to find stream\",\"type\":5\x7d"
    let members := [("message", "\"Unable to find stream\"".toList), ("type", ['5'])]
    IsObject body.toList members ∧ (members.map (·.1)).Nodup ∧
      IsString "\"Unable to find stream\"".toList "Unable to find stream" ∧
      readBody ⟨400⟩ body = .error (.badStatus ⟨400⟩ body) := by
  intro body members
  have message : IsString "\"Unable to find stream\"".toList "Unable to find stream" := by
    decide +kernel
  have key : IsString "\"message\"".toList "message" := by decide +kernel
  have otherKey : IsString "\"type\"".toList "type" := by decide +kernel
  have five : IsValue ['5'] := by decide +kernel
  exact ⟨Json.isObject_pair key message.isValue otherKey five (by decide +kernel), by decide,
    message, by decide +kernel⟩

end StreamPipelines
