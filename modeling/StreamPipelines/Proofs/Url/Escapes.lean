import Mathlib.Data.List.Infix
import StreamPipelines.Proofs.Text.Utf8
import StreamPipelines.Proofs.Url.Path

/-!
What the parts of a path stand for. Encoding a text changes nothing about the bytes that it stands
for: these are the bytes of the text itself, as long as no percent sign in it has two hexadecimal
digits behind it. Each such escape makes the bytes fewer, so the number of bytes alone tells
whether there is one.
-/

namespace StreamPipelines
namespace Url

/-- The bytes that a part of an address stands for. -/
def partBytes (cs : List Char) : List UInt8 :=
  percentDecode (cs.flatMap String.utf8EncodeChar)

/-- The number of two hexadecimal digits that come first, and what is behind them. -/
def hexPair? : List Char → Option (Nat × List Char)
  | c :: d :: rest =>
      match Text.hexValue? c, Text.hexValue? d with
      | some i, some j => some (i * 16 + j, rest)
      | _, _ => none
  | _ => none

def beginsWithEscape : List Char → Bool
  | '%' :: cs => (hexPair? cs).isSome
  | _ => false

/-- No percent sign has two hexadecimal digits behind it. -/
def HasNoEscape (cs : List Char) : Prop :=
  ∀ tail ∈ cs.tails, beginsWithEscape tail = false

instance (cs : List Char) : Decidable (HasNoEscape cs) :=
  inferInstanceAs (Decidable (∀ tail ∈ cs.tails, _))

theorem hasNoEscape_cons {c : Char} {cs : List Char} :
    HasNoEscape (c :: cs) ↔ beginsWithEscape (c :: cs) = false ∧ HasNoEscape cs := by
  rw [HasNoEscape, List.tails_cons, List.forall_mem_cons, HasNoEscape]

theorem toNat_of_mem_utf8EncodeChar {c : Char} (h : 0x80 ≤ c.toNat) {b : UInt8}
    (hb : b ∈ String.utf8EncodeChar c) : 0x80 ≤ b.toNat := by
  have wide : 0x80 ≤ c.val.toNat := h
  unfold String.utf8EncodeChar at hb
  generalize c.val.toNat = n at *
  dsimp only at hb
  rw [if_neg (show ¬n ≤ 0x7f by omega)] at hb
  split at hb
  · simp only [List.mem_cons, List.not_mem_nil, or_false] at hb
    obtain rfl | rfl := hb <;> rw [UInt8.toNat_ofNat'] <;> omega
  · split at hb <;> simp only [List.mem_cons, List.not_mem_nil, or_false] at hb
    · obtain rfl | rfl | rfl := hb <;> rw [UInt8.toNat_ofNat'] <;> omega
    · obtain rfl | rfl | rfl | rfl := hb <;> rw [UInt8.toNat_ofNat'] <;> omega

theorem ne_percent_of_mem_utf8EncodeChar {c : Char} (other : c ≠ '%') {b : UInt8}
    (hb : b ∈ String.utf8EncodeChar c) : b.toNat ≠ 0x25 := by
  by_cases ascii : c.toNat < 0x80
  · rw [utf8EncodeChar_of_ascii ascii, List.mem_singleton] at hb
    rw [hb, toNat_ofNat_of_ascii ascii]
    intro percent
    exact other (by rw [← Char.ofNat_toNat c, percent])
  · have := toNat_of_mem_utf8EncodeChar (Nat.not_lt.mp ascii) hb
    omega

theorem percentDecode_cons {b : UInt8} (other : b.toNat ≠ 0x25) (bs : List UInt8) :
    percentDecode (b :: bs) = b :: percentDecode bs := by
  match bs with
  | [] | [_] => rfl
  | _ :: _ :: _ => rw [percentDecode, if_neg other]

theorem percentDecode_append {bs : List UInt8} (others : ∀ b ∈ bs, b.toNat ≠ 0x25)
    (cs : List UInt8) : percentDecode (bs ++ cs) = bs ++ percentDecode cs := by
  induction bs with
  | nil => rfl
  | cons b bs ih =>
      obtain ⟨first, rest⟩ := List.forall_mem_cons.mp others
      rw [List.cons_append, percentDecode_cons first, ih rest, List.cons_append]

theorem partBytes_cons {c : Char} (other : c ≠ '%') (cs : List Char) :
    partBytes (c :: cs) = String.utf8EncodeChar c ++ partBytes cs := by
  rw [partBytes, List.flatMap_cons,
    percentDecode_append (fun b hb => ne_percent_of_mem_utf8EncodeChar other hb), partBytes]

theorem hexPair?_eq_some {cs rest : List Char} {n : Nat} (h : hexPair? cs = some (n, rest)) :
    ∃ c d i j, cs = c :: d :: rest ∧ Text.hexValue? c = some i ∧ Text.hexValue? d = some j ∧
      n = i * 16 + j := by
  unfold hexPair? at h
  split at h
  · split at h
    · rename_i first second
      cases h
      exact ⟨_, _, _, _, rfl, first, second, rfl⟩
    · cases h
  · cases h

theorem toNat_lt_of_hexValue? {c : Char} {i : Nat} (h : Text.hexValue? c = some i) :
    c.toNat < 0x80 :=
  Text.IsHex.toNat_lt (Option.isSome_iff_exists.mpr ⟨i, h⟩)

theorem partBytes_escape {cs rest : List Char} {n : Nat} (h : hexPair? cs = some (n, rest)) :
    partBytes ('%' :: cs) = UInt8.ofNat n :: partBytes rest := by
  obtain ⟨c, d, i, j, rfl, first, second, rfl⟩ := hexPair?_eq_some h
  have firstAscii := toNat_lt_of_hexValue? first
  have secondAscii := toNat_lt_of_hexValue? second
  have percent : String.utf8EncodeChar '%' = [0x25] := by decide
  simp only [partBytes, List.flatMap_cons, percent, utf8EncodeChar_of_ascii firstAscii,
    utf8EncodeChar_of_ascii secondAscii, List.cons_append, List.nil_append, percentDecode]
  rw [if_pos (by decide), toNat_ofNat_of_ascii firstAscii, toNat_ofNat_of_ascii secondAscii,
    Char.ofNat_toNat, Char.ofNat_toNat, first, second]

/-- A byte of ASCII is a character of its own. -/
theorem cons_of_flatMap_utf8EncodeChar {cs : List Char} {b : UInt8} {bs : List UInt8}
    (ascii : b.toNat < 0x80) (h : cs.flatMap String.utf8EncodeChar = b :: bs) :
    ∃ rest, cs = Char.ofNat b.toNat :: rest ∧ rest.flatMap String.utf8EncodeChar = bs := by
  cases cs with
  | nil => cases h
  | cons c rest =>
      rw [List.flatMap_cons] at h
      by_cases narrow : c.toNat < 0x80
      · rw [utf8EncodeChar_of_ascii narrow, List.singleton_append, List.cons.injEq] at h
        obtain ⟨rfl, behind⟩ := h
        refine ⟨rest, ?_, behind⟩
        rw [toNat_ofNat_of_ascii narrow, Char.ofNat_toNat]
      · obtain ⟨d, ds, bytes⟩ :=
          List.exists_cons_of_ne_nil (String.utf8EncodeChar_ne_nil (c := c))
        rw [bytes, List.cons_append, List.cons.injEq] at h
        have wide := toNat_of_mem_utf8EncodeChar (Nat.not_lt.mp narrow) (b := d) (by simp [bytes])
        rw [h.1] at wide
        omega

theorem partBytes_percent {cs : List Char} (h : hexPair? cs = none) :
    partBytes ('%' :: cs) = 0x25 :: partBytes cs := by
  have percent : String.utf8EncodeChar '%' = [0x25] := by decide
  rw [partBytes, List.flatMap_cons, percent, List.singleton_append, partBytes]
  match bytes : cs.flatMap String.utf8EncodeChar with
  | [] | [_] => rfl
  | b :: c :: bs =>
      rw [percentDecode, if_pos (by decide)]
      split
      · rename_i i j first second
        exfalso
        have small {b : UInt8} {k : Nat} (hex : Text.hexValue? (Char.ofNat b.toNat) = some k) :
            b.toNat < 0x80 := by
          have none : ∀ n < 128, Text.hexValue? (Char.ofNat (n + 128)) = none := by decide
          have bound := b.toNat_lt
          by_contra wide
          have high := none (b.toNat - 128) (by omega)
          rw [Nat.sub_add_cancel (by omega), hex] at high
          cases high
        obtain ⟨rest, rfl, behind⟩ := cons_of_flatMap_utf8EncodeChar (small first) bytes
        obtain ⟨rest, rfl, -⟩ := cons_of_flatMap_utf8EncodeChar (small second) behind
        simp [hexPair?, first, second] at h
      · rfl

/-- A text is taken apart into its escapes and the other characters. -/
@[elab_as_elim]
theorem escapes_induction {P : List Char → Prop} (nil : P [])
    (plain : ∀ c cs, c ≠ '%' → P cs → P (c :: cs))
    (escape : ∀ cs n rest, hexPair? cs = some (n, rest) → P rest → P ('%' :: cs))
    (percent : ∀ cs, hexPair? cs = none → P cs → P ('%' :: cs)) (cs : List Char) : P cs := by
  induction length : cs.length using Nat.strongRecOn generalizing cs with
  | ind n ih =>
      subst length
      cases cs with
      | nil => exact nil
      | cons c cs =>
          by_cases other : c = '%'
          · subst other
            cases pair : hexPair? cs with
            | none => exact percent cs pair (ih _ (by simp) cs rfl)
            | some found =>
                obtain ⟨n, rest⟩ := found
                obtain ⟨d, e, -, -, rfl, -⟩ := hexPair?_eq_some pair
                exact escape _ n rest pair (ih _ (by simp; omega) rest rfl)
          · exact plain c cs other (ih _ (by simp) cs rfl)

theorem encodedChar_of_hex {c : Char} {i : Nat} (h : Text.hexValue? c = some i) :
    encodedChar inPathSet c = [c] := by
  have all : (Text.hexValue? c).isSome = true → encodedChar inPathSet c = [c] :=
    Text.of_ascii (P := fun c => (Text.hexValue? c).isSome = true → encodedChar inPathSet c = [c])
      (by decide) (toNat_lt_of_hexValue? h)
  exact all (by simp [h])

/-- A character that is no digit is no digit when it is encoded. -/
theorem exists_encodedChar (c : Char) : encodedChar inPathSet c = [c] ∨
    ∃ cs, encodedChar inPathSet c = '%' :: cs := by
  unfold encodedChar
  split
  · obtain ⟨b, bs, bytes⟩ := List.exists_cons_of_ne_nil (String.utf8EncodeChar_ne_nil (c := c))
    exact .inr ⟨_, by rw [bytes, List.flatMap_cons, encodedByte]; rfl⟩
  · exact .inl rfl

theorem percentEncode_cons (set : Char → Bool) (c : Char) (cs : List Char) :
    percentEncode set (c :: cs) = encodedChar set c ++ percentEncode set cs :=
  List.flatMap_cons

theorem hexPair?_percentEncode (cs : List Char) :
    hexPair? (percentEncode inPathSet cs) =
      (hexPair? cs).map fun (n, rest) => (n, percentEncode inPathSet rest) := by
  have noDigit : Text.hexValue? '%' = none := by decide
  match cs with
  | [] => rfl
  | [c] =>
      obtain kept | ⟨ds, encoded⟩ := exists_encodedChar c
      · rw [percentEncode_cons, kept]
        rfl
      · rw [percentEncode_cons, encoded]
        cases ds with
        | nil => rfl
        | cons d ds => simp [hexPair?, noDigit]
  | c :: d :: rest =>
      rw [percentEncode_cons, percentEncode_cons]
      cases first : Text.hexValue? c with
      | none =>
          -- What is there in the place of a character that is no digit is none either.
          obtain ⟨e, es, begins, none⟩ : ∃ e es, encodedChar inPathSet c = e :: es ∧
              Text.hexValue? e = none := by
            obtain kept | ⟨ds, encoded⟩ := exists_encodedChar c
            · exact ⟨c, [], kept, first⟩
            · exact ⟨'%', ds, encoded, noDigit⟩
          obtain ⟨f, fs, more⟩ : ∃ f fs, es ++ (encodedChar inPathSet d ++
              percentEncode inPathSet rest) = f :: fs := by
            refine List.exists_cons_of_ne_nil (List.append_ne_nil_of_right_ne_nil _ ?_)
            obtain kept | ⟨ds, encoded⟩ := exists_encodedChar d <;> simp [*]
          rw [begins, List.cons_append, more]
          simp [hexPair?, first, none]
      | some i =>
          rw [encodedChar_of_hex first, List.singleton_append]
          cases second : Text.hexValue? d with
          | some j =>
              rw [encodedChar_of_hex second, List.singleton_append]
              simp [hexPair?, first, second]
          | none =>
              obtain kept | ⟨ds, encoded⟩ := exists_encodedChar d
              · rw [kept]
                simp [hexPair?, first, second]
              · rw [encoded]
                simp [hexPair?, first, second, noDigit]

theorem partBytes_encodedByte (b : UInt8) (cs : List Char) :
    partBytes (encodedByte b ++ cs) = b :: partBytes cs := by
  have value (n : Nat) : Text.hexValue? (Text.hexDigitUpper n) = some (n % 16) := by
    have all : ∀ d < 16, Text.hexValue? (if d < 10 then Char.ofNat (0x30 + d)
        else Char.ofNat (0x41 + d - 10)) = some d := by decide
    exact all (n % 16) (Nat.mod_lt n (by decide))
  have pair : hexPair? (Text.hexDigitUpper (b.toNat / 16) :: Text.hexDigitUpper b.toNat :: cs) =
      some (b.toNat, cs) := by
    have below := b.toNat_lt
    simp only [hexPair?, value, Option.some.injEq, Prod.mk.injEq, and_true]
    omega
  rw [encodedByte, List.cons_append, List.cons_append, List.cons_append, List.nil_append,
    partBytes_escape pair, UInt8.ofNat_toNat]

theorem partBytes_encodedChar (c : Char) (cs : List Char) (other : c ≠ '%') :
    partBytes (encodedChar inPathSet c ++ cs) = String.utf8EncodeChar c ++ partBytes cs := by
  unfold encodedChar
  split
  · induction String.utf8EncodeChar c with
    | nil => rfl
    | cons b bs ih =>
        rw [List.flatMap_cons, List.append_assoc, partBytes_encodedByte, ih, List.cons_append]
  · exact partBytes_cons other cs

/-- Encoding changes nothing about the bytes that a text stands for. -/
theorem partBytes_percentEncode (cs : List Char) :
    partBytes (percentEncode inPathSet cs) = partBytes cs := by
  have kept : encodedChar inPathSet '%' = ['%'] := by decide
  induction cs using escapes_induction with
  | nil => rfl
  | plain c cs other ih =>
      rw [percentEncode_cons, partBytes_encodedChar c _ other, ih, partBytes_cons other]
  | escape cs n rest pair ih =>
      have encoded := hexPair?_percentEncode cs
      rw [pair, Option.map_some] at encoded
      rw [percentEncode_cons, kept, List.singleton_append, partBytes_escape encoded, ih,
        partBytes_escape pair]
  | percent cs pair ih =>
      have encoded := hexPair?_percentEncode cs
      rw [pair, Option.map_none] at encoded
      rw [percentEncode_cons, kept, List.singleton_append, partBytes_percent encoded, ih,
        partBytes_percent pair]

def byteCount (cs : List Char) : Nat :=
  (cs.flatMap String.utf8EncodeChar).length

@[simp] theorem byteCount_nil : byteCount [] = 0 :=
  rfl

@[simp] theorem byteCount_cons (c : Char) (cs : List Char) :
    byteCount (c :: cs) = (String.utf8EncodeChar c).length + byteCount cs := by
  rw [byteCount, List.flatMap_cons, List.length_append, byteCount]

@[simp] theorem byteCount_append (cs ds : List Char) :
    byteCount (cs ++ ds) = byteCount cs + byteCount ds := by
  rw [byteCount, List.flatMap_append, List.length_append, byteCount, byteCount]

theorem length_utf8EncodeChar_pos (c : Char) : 0 < (String.utf8EncodeChar c).length :=
  List.length_pos_iff.mpr String.utf8EncodeChar_ne_nil

theorem length_partBytes_le (cs : List Char) : (partBytes cs).length ≤ byteCount cs := by
  induction cs using escapes_induction with
  | nil => exact Nat.le_refl 0
  | plain c cs other ih =>
      rw [partBytes_cons other, byteCount_cons, List.length_append]
      omega
  | escape cs n rest pair ih =>
      obtain ⟨c, d, -, -, rfl, -⟩ := hexPair?_eq_some pair
      have sign := length_utf8EncodeChar_pos '%'
      rw [partBytes_escape pair, List.length_cons, byteCount_cons, byteCount_cons, byteCount_cons]
      omega
  | percent cs pair ih =>
      have sign := length_utf8EncodeChar_pos '%'
      rw [partBytes_percent pair, List.length_cons, byteCount_cons]
      omega

/-- A text without escapes stands for its own bytes, and no other text for as many. -/
theorem hasNoEscape_iff (cs : List Char) :
    HasNoEscape cs ↔ (partBytes cs).length = byteCount cs := by
  induction cs using escapes_induction with
  | nil => exact ⟨fun _ => rfl, fun _ => by decide⟩
  | plain c cs other ih =>
      have first : beginsWithEscape (c :: cs) = false := by
        unfold beginsWithEscape
        split
        · rename_i same
          exact absurd (List.cons.inj same).1 other
        · rfl
      rw [hasNoEscape_cons, eq_true first, true_and, ih, partBytes_cons other, byteCount_cons,
        List.length_append, Nat.add_left_cancel_iff]
  | escape cs n rest pair ih =>
      have first : beginsWithEscape ('%' :: cs) = true := by simp [beginsWithEscape, pair]
      obtain ⟨c, d, -, -, rfl, -⟩ := hexPair?_eq_some pair
      have fewer := length_partBytes_le rest
      have digit := length_utf8EncodeChar_pos c
      have sign := length_utf8EncodeChar_pos '%'
      rw [hasNoEscape_cons, first, partBytes_escape pair, List.length_cons, byteCount_cons,
        byteCount_cons, byteCount_cons]
      constructor
      · rintro ⟨⟨⟩, -⟩
      · omega
  | percent cs pair ih =>
      have first : beginsWithEscape ('%' :: cs) = false := by simp [beginsWithEscape, pair]
      have one : (String.utf8EncodeChar '%').length = 1 := by decide
      rw [hasNoEscape_cons, eq_true first, true_and, ih, partBytes_percent pair, byteCount_cons,
        List.length_cons, one]
      omega

theorem partBytes_of_hasNoEscape {cs : List Char} (h : HasNoEscape cs) :
    partBytes cs = cs.flatMap String.utf8EncodeChar := by
  induction cs with
  | nil => rfl
  | cons c cs ih =>
      obtain ⟨first, rest⟩ := hasNoEscape_cons.mp h
      rw [List.flatMap_cons, ← ih rest]
      by_cases percent : c = '%'
      · subst percent
        have pair : hexPair? cs = none := by simpa [beginsWithEscape] using first
        rw [partBytes_percent pair]
        rfl
      · exact partBytes_cons percent cs

theorem partBytes_of_decodeDots {cs : List Char} {n : Nat}
    (h : decodeDots cs = List.replicate n '.') : partBytes cs = List.replicate n 0x2e := by
  fun_induction decodeDots cs generalizing n with
  | case1 rest ih =>
      have pair : hexPair? ('2' :: 'e' :: rest) = some (0x2e, rest) := rfl
      cases n with
      | zero => cases h
      | succ n =>
          rw [List.replicate_succ, List.cons.injEq] at h
          rw [partBytes_escape pair, ih h.2]
          rfl
  | case2 rest ih =>
      have pair : hexPair? ('2' :: 'E' :: rest) = some (0x2e, rest) := rfl
      cases n with
      | zero => cases h
      | succ n =>
          rw [List.replicate_succ, List.cons.injEq] at h
          rw [partBytes_escape pair, ih h.2]
          rfl
  | case3 c rest _ _ ih =>
      cases n with
      | zero => cases h
      | succ n =>
          rw [List.replicate_succ, List.cons.injEq] at h
          rw [h.1, partBytes_cons (by decide), ih h.2]
          rfl
  | case4 =>
      cases n with
      | zero => rfl
      | succ n => cases h

end Url
end StreamPipelines
