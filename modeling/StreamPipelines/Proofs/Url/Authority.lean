import StreamPipelines.Client
import StreamPipelines.Proofs.Url.Host

/-!
What the parts of an authority are made of. Escaped text is not escaped again, no character of a
user name, a host or a port ends the authority or is dropped when it is read, and the host is
parted from what follows where its text ends.
-/

namespace StreamPipelines
namespace Url

/-- The character is written as it is in a part whose set is `set`. -/
structure Unescaped (set : Char → Bool) (c : Char) : Prop where
  plain : alwaysEncoded c = false
  outside : set c = false

theorem percentEncode_of_unescaped {set : Char → Bool} {cs : List Char}
    (h : ∀ c ∈ cs, Unescaped set c) : percentEncode set cs = cs := by
  induction cs with
  | nil => rfl
  | cons c cs ih =>
      obtain ⟨first, rest⟩ := List.forall_mem_cons.mp h
      have kept : encodedChar set c = [c] := by simp [encodedChar, first.plain, first.outside]
      have more := ih rest
      unfold percentEncode at more ⊢
      rw [List.flatMap_cons, kept, more, List.singleton_append]

theorem unescaped_hexDigitUpper (n : Nat) :
    Unescaped inUserInfoSet (Text.hexDigitUpper n) := by
  have all : ∀ d < 16, alwaysEncoded (if d < 10 then Char.ofNat (0x30 + d)
      else Char.ofNat (0x41 + d - 10)) = false ∧ inUserInfoSet (if d < 10 then
      Char.ofNat (0x30 + d) else Char.ofNat (0x41 + d - 10)) = false := by decide
  obtain ⟨plain, outside⟩ := all (n % 16) (Nat.mod_lt n (by decide))
  exact ⟨plain, outside⟩

theorem Unescaped.mono {set larger : Char → Bool} (within : ∀ c, set c = true → larger c = true)
    {c : Char} (h : Unescaped larger c) : Unescaped set c := by
  refine ⟨h.plain, Bool.eq_false_iff.mpr fun inside => ?_⟩
  have outside := h.outside
  rw [within c inside] at outside
  cases outside

/-- The characters of an encoded text stay when it is encoded once more. -/
theorem unescaped_of_mem_percentEncode {set : Char → Bool}
    (within : ∀ c, set c = true → inUserInfoSet c = true) {cs : List Char} {c : Char}
    (h : c ∈ percentEncode set cs) : Unescaped set c := by
  obtain ⟨d, -, hc⟩ := List.mem_flatMap.mp h
  unfold encodedChar at hc
  split at hc
  · obtain ⟨b, -, hc⟩ := List.mem_flatMap.mp hc
    simp only [encodedByte, List.mem_cons, List.not_mem_nil, or_false] at hc
    obtain rfl | rfl | rfl := hc
    · exact Unescaped.mono within ⟨by decide, by decide⟩
    · exact (unescaped_hexDigitUpper _).mono within
    · exact (unescaped_hexDigitUpper _).mono within
  · rename_i kept
    cases List.mem_singleton.mp hc
    simp only [Bool.or_eq_true, not_or, Bool.not_eq_true] at kept
    exact ⟨kept.1, kept.2⟩

/-- The character neither ends an authority nor is dropped. -/
structure Inside (c : Char) : Prop where
  stays : endsAuthority c = false
  kept : isDropped c = false

theorem inside_of_ascii {P : Char → Prop} [DecidablePred P]
    (all : ∀ n < 128, P (Char.ofNat n) →
      endsAuthority (Char.ofNat n) = false ∧ isDropped (Char.ofNat n) = false) {c : Char}
    (ascii : c.toNat < 128) (h : P c) : Inside c := by
  obtain ⟨stays, kept⟩ := Text.of_ascii
    (P := fun c => P c → endsAuthority c = false ∧ isDropped c = false) all ascii h
  exact ⟨stays, kept⟩

theorem Unescaped.inside {c : Char} (h : Unescaped inUserInfoSet c) : Inside c := by
  refine inside_of_ascii (P := fun c => alwaysEncoded c = false ∧ inUserInfoSet c = false)
    (by decide) ?_ ⟨h.plain, h.outside⟩
  have plain := h.plain
  simp only [alwaysEncoded, Bool.or_eq_false_iff, decide_eq_false_iff_not] at plain
  omega

theorem Unescaped.ne {set : Char → Bool} {c : Char} (h : Unescaped set c) {d : Char}
    (reserved : set d = true) : c ≠ d := by
  rintro rfl
  simp [h.outside] at reserved

namespace Host

theorem IsNameChar.inside {c : Char} (h : IsNameChar c) : Inside c :=
  inside_of_ascii (P := fun c => 0x20 < c.toNat ∧ forbiddenInDomain c = false)
    (by decide) (Nat.lt_trans h.below (by decide)) ⟨h.above, h.allowed⟩

theorem inside_of_hex {c : Char} (h : Text.IsHex c) : Inside c := by
  refine inside_of_ascii (P := fun c => (Text.hexValue? c).isSome = true) (by decide) h.toNat_lt h

/-- The characters of a host, apart from the brackets around an IPv6 address. -/
theorem inside_of_mem_chars {h : Host} (written : Written h) {c : Char} (hc : c ∈ h.chars) :
    Inside c ∧ c ≠ '@' := by
  cases written with
  | domain name present chars =>
      rw [Host.chars, String.toList_ofList] at hc
      refine ⟨(chars c hc).inside, ?_⟩
      rintro rfl
      exact absurd (chars _ hc).allowed (by decide)
  | ipv4 address =>
      have name := isNameChar_of_ipv4 (isDecimal_or_dot_of_mem_ipv4Chars hc)
      refine ⟨name.inside, ?_⟩
      rintro rfl
      exact absurd name.allowed (by decide)
  | ipv6 pieces =>
      obtain rfl | hc | rfl := (by simpa [Host.chars] using hc : c = '[' ∨ c ∈ _ ∨ c = ']')
      · exact ⟨⟨by decide, by decide⟩, by decide⟩
      · obtain hex | rfl := isHex_or_colon_of_mem_ipv6Chars hc
        · refine ⟨inside_of_hex hex, ?_⟩
          rintro rfl
          simp [Text.IsHex, Text.hexValue?] at hex
        · exact ⟨⟨by decide, by decide⟩, by decide⟩
      · exact ⟨⟨by decide, by decide⟩, by decide⟩

theorem chars_ne_nil {h : Host} (written : Written h) : h.chars ≠ [] := by
  cases written with
  | domain name present _ => simpa [Host.chars] using present
  | ipv4 address => simp [Host.chars, ipv4Chars]
  | ipv6 pieces => simp [Host.chars]

end Host

theorem splitHost_append {cs : List Char} (h : ∀ c ∈ cs, c ≠ ':' ∧ c ≠ '[' ∧ c ≠ ']')
    (rest : List Char) :
    splitHost false (cs ++ rest) = (cs ++ (splitHost false rest).1, (splitHost false rest).2) := by
  induction cs with
  | nil => rfl
  | cons c cs ih =>
      obtain ⟨⟨colon, opening, closing⟩, others⟩ := List.forall_mem_cons.mp h
      simp [splitHost, colon, opening, closing, ih others]

theorem splitHost_inBrackets {cs : List Char} (h : ∀ c ∈ cs, c ≠ ']') (rest : List Char) :
    splitHost true (cs ++ ']' :: rest) =
      (cs ++ ']' :: (splitHost false rest).1, (splitHost false rest).2) := by
  induction cs with
  | nil => simp [splitHost]
  | cons c cs ih =>
      obtain ⟨closing, others⟩ := List.forall_mem_cons.mp h
      have inside : (if c = '[' then true else if c = ']' then false else true) = true := by
        simp [closing]
      simp only [List.cons_append, splitHost, inside, ih others]
      simp

theorem splitHost_chars {h : Host} (written : h.Written) (rest : List Char) :
    splitHost false (h.chars ++ rest) =
      (h.chars ++ (splitHost false rest).1, (splitHost false rest).2) := by
  cases written with
  | domain name present chars =>
      rw [Host.chars, String.toList_ofList]
      refine splitHost_append (fun c hc => ?_) rest
      have allowed := (chars c hc).allowed
      refine ⟨?_, ?_, ?_⟩ <;> rintro rfl <;> exact absurd allowed (by decide)
  | ipv4 address =>
      refine splitHost_append (fun c hc => ?_) rest
      have allowed := (Host.isNameChar_of_ipv4 (Host.isDecimal_or_dot_of_mem_ipv4Chars hc)).allowed
      refine ⟨?_, ?_, ?_⟩ <;> rintro rfl <;> exact absurd allowed (by decide)
  | ipv6 pieces =>
      have inner : ∀ c ∈ Host.ipv6Chars pieces, c ≠ ']' := by
        rintro c hc rfl
        obtain hex | colon := Host.isHex_or_colon_of_mem_ipv6Chars hc
        · simp [Text.IsHex, Text.hexValue?] at hex
        · cases colon
      have split := splitHost_inBrackets inner rest
      simp [Host.chars, splitHost, split]

end Url
end StreamPipelines
