import Mathlib.Tactic.SplitIfs
import StreamPipelines.Proofs.Text.Digits
import StreamPipelines.Text.Utf8

/-!
What bytes are read as a text, and what texts as a number. The lead byte tells how many bytes a
character has and where the second of them lies, which is just what keeps out the code points that
have a shorter form, the surrogates and what is above U+10FFFF. So bytes are read as a text if they
are the bytes of that text. Digits are read as a word if the number they are written for is one.
-/

namespace StreamPipelines
namespace Text

/-- The lead bytes, by the number of bytes that follow them. -/
theorem leadByte_eq (b : UInt8) : leadByte b =
    if 0xc2 ≤ b.toNat ∧ b.toNat ≤ 0xdf then some (1, 0x80, 0xbf)
    else if 0xe0 ≤ b.toNat ∧ b.toNat ≤ 0xef then
      some (2, if b.toNat = 0xe0 then 0xa0 else 0x80, if b.toNat = 0xed then 0x9f else 0xbf)
    else if 0xf0 ≤ b.toNat ∧ b.toNat ≤ 0xf4 then
      some (3, if b.toNat = 0xf0 then 0x90 else 0x80, if b.toNat = 0xf4 then 0x8f else 0xbf)
    else none := by
  unfold leadByte
  dsimp only
  split_ifs <;> first | rfl | omega

theorem readContinuation_zero_iff {low high n m : Nat} {bs rest : List UInt8} :
    readContinuation 0 low high n bs = (some m, rest) ↔ n = m ∧ bs = rest := by
  simp [readContinuation]

theorem readContinuation_succ_iff {count low high n m : Nat} {bs rest : List UInt8} :
    readContinuation (count + 1) low high n bs = (some m, rest) ↔
      ∃ b cs, bs = b :: cs ∧ (low ≤ b.toNat ∧ b.toNat ≤ high) ∧
        readContinuation count 0x80 0xbf (n * 64 + b.toNat % 64) cs = (some m, rest) := by
  cases bs with
  | nil => simp [readContinuation]
  | cons b cs =>
      simp only [readContinuation, List.cons.injEq]
      constructor
      · intro h
        split at h
        · rename_i within
          exact ⟨b, cs, ⟨rfl, rfl⟩, within, h⟩
        · cases h
      · rintro ⟨_, _, ⟨rfl, rfl⟩, within, h⟩
        rw [if_pos within, h]

theorem readUnit_eq_some_iff {b : UInt8} {bs rest : List UInt8} {c : Char} {count low high : Nat}
    (lead : leadByte b = some (count, low, high)) (large : 0x80 ≤ b.toNat) :
    readUnit b bs = (some c, rest) ↔ ∃ n, Char.ofNat n = c ∧
      readContinuation count low high (b.toNat % (1 <<< (6 - count))) bs = (some n, rest) := by
  rw [readUnit, if_neg (by omega), lead]
  dsimp only
  generalize readContinuation count low high (b.toNat % (1 <<< (6 - count))) bs = taken
  obtain ⟨_ | n, left⟩ := taken
  · simp
  · simp only [Option.map_some, Prod.mk.injEq, Option.some.injEq]
    constructor
    · rintro ⟨rfl, rfl⟩
      exact ⟨n, rfl, rfl, rfl⟩
    · rintro ⟨m, rfl, rfl, rfl⟩
      exact ⟨rfl, rfl⟩

theorem ofNat_eq_iff {n : Nat} (valid : n.isValidChar) {c : Char} :
    Char.ofNat n = c ↔ c.val.toNat = n := by
  have back : (Char.ofNat n).val.toNat = n := by
    rw [Char.ofNat, dif_pos valid]
    rfl
  constructor
  · rintro rfl
    exact back
  · rintro rfl
    exact Char.ofNat_toNat c

theorem readUnit_one_iff {b : UInt8} (range : b.toNat < 0x80) {bs rest : List UInt8} {c : Char} :
    readUnit b bs = (some c, rest) ↔ bs = rest ∧ c.val.toNat = b.toNat := by
  rw [readUnit, if_pos range, Prod.mk.injEq, Option.some.injEq, ofNat_eq_iff (.inl (by omega)),
    and_comm]

theorem readUnit_two_iff {b : UInt8} (range : 0xc2 ≤ b.toNat ∧ b.toNat ≤ 0xdf)
    {bs rest : List UInt8} {c : Char} : readUnit b bs = (some c, rest) ↔
      ∃ b₁, bs = b₁ :: rest ∧ (0x80 ≤ b₁.toNat ∧ b₁.toNat ≤ 0xbf) ∧
        c.val.toNat = b.toNat % 32 * 64 + b₁.toNat % 64 := by
  have lead : leadByte b = some (1, 0x80, 0xbf) := by
    rw [leadByte_eq, if_pos range]
  rw [readUnit_eq_some_iff lead (by omega)]
  simp only [readContinuation_succ_iff, readContinuation_zero_iff]
  constructor
  · rintro ⟨n, char, b₁, cs, rfl, within, rfl, rfl⟩
    exact ⟨b₁, rfl, within, (ofNat_eq_iff (.inl (by omega))).mp char⟩
  · rintro ⟨b₁, rfl, within, code⟩
    exact ⟨_, (ofNat_eq_iff (.inl (by omega))).mpr code, b₁, rest, rfl, within, rfl, rfl⟩

theorem readUnit_three_iff {b : UInt8} (range : 0xe0 ≤ b.toNat ∧ b.toNat ≤ 0xef)
    {bs rest : List UInt8} {c : Char} : readUnit b bs = (some c, rest) ↔
      ∃ b₁ b₂, bs = b₁ :: b₂ :: rest ∧
        ((if b.toNat = 0xe0 then 0xa0 else 0x80) ≤ b₁.toNat ∧
          b₁.toNat ≤ if b.toNat = 0xed then 0x9f else 0xbf) ∧
        (0x80 ≤ b₂.toNat ∧ b₂.toNat ≤ 0xbf) ∧
        c.val.toNat = (b.toNat % 16 * 64 + b₁.toNat % 64) * 64 + b₂.toNat % 64 := by
  have lead : leadByte b = some (2, if b.toNat = 0xe0 then 0xa0 else 0x80,
      if b.toNat = 0xed then 0x9f else 0xbf) := by
    rw [leadByte_eq, if_neg (by omega), if_pos range]
  have valid (b₁ b₂ : UInt8) (within : (if b.toNat = 0xe0 then 0xa0 else 0x80) ≤ b₁.toNat ∧
      b₁.toNat ≤ if b.toNat = 0xed then 0x9f else 0xbf) :
      ((b.toNat % 16 * 64 + b₁.toNat % 64) * 64 + b₂.toNat % 64).isValidChar := by
    unfold Nat.isValidChar
    split_ifs at within <;> omega
  rw [readUnit_eq_some_iff lead (by omega)]
  simp only [readContinuation_succ_iff, readContinuation_zero_iff]
  constructor
  · rintro ⟨n, char, b₁, cs, rfl, within, b₂, cs, rfl, within', rfl, rfl⟩
    exact ⟨b₁, b₂, rfl, within, within', (ofNat_eq_iff (valid b₁ b₂ within)).mp char⟩
  · rintro ⟨b₁, b₂, rfl, within, within', code⟩
    exact ⟨_, (ofNat_eq_iff (valid b₁ b₂ within)).mpr code, b₁, _, rfl, within, b₂, rest, rfl,
      within', rfl, rfl⟩

theorem readUnit_four_iff {b : UInt8} (range : 0xf0 ≤ b.toNat ∧ b.toNat ≤ 0xf4)
    {bs rest : List UInt8} {c : Char} : readUnit b bs = (some c, rest) ↔
      ∃ b₁ b₂ b₃, bs = b₁ :: b₂ :: b₃ :: rest ∧
        ((if b.toNat = 0xf0 then 0x90 else 0x80) ≤ b₁.toNat ∧
          b₁.toNat ≤ if b.toNat = 0xf4 then 0x8f else 0xbf) ∧
        (0x80 ≤ b₂.toNat ∧ b₂.toNat ≤ 0xbf) ∧ (0x80 ≤ b₃.toNat ∧ b₃.toNat ≤ 0xbf) ∧
        c.val.toNat =
          ((b.toNat % 8 * 64 + b₁.toNat % 64) * 64 + b₂.toNat % 64) * 64 + b₃.toNat % 64 := by
  have lead : leadByte b = some (3, if b.toNat = 0xf0 then 0x90 else 0x80,
      if b.toNat = 0xf4 then 0x8f else 0xbf) := by
    rw [leadByte_eq, if_neg (by omega), if_neg (by omega), if_pos range]
  have valid (b₁ b₂ b₃ : UInt8) (within : (if b.toNat = 0xf0 then 0x90 else 0x80) ≤ b₁.toNat ∧
      b₁.toNat ≤ if b.toNat = 0xf4 then 0x8f else 0xbf) :
      (((b.toNat % 8 * 64 + b₁.toNat % 64) * 64 + b₂.toNat % 64) * 64 +
        b₃.toNat % 64).isValidChar := by
    refine .inr ?_
    split_ifs at within <;> omega
  rw [readUnit_eq_some_iff lead (by omega)]
  simp only [readContinuation_succ_iff, readContinuation_zero_iff]
  constructor
  · rintro ⟨n, char, b₁, cs, rfl, within, b₂, cs, rfl, within₂, b₃, cs, rfl, within₃, rfl, rfl⟩
    exact ⟨b₁, b₂, b₃, rfl, within, within₂, within₃,
      (ofNat_eq_iff (valid b₁ b₂ b₃ within)).mp char⟩
  · rintro ⟨b₁, b₂, b₃, rfl, within, within₂, within₃, code⟩
    exact ⟨_, (ofNat_eq_iff (valid b₁ b₂ b₃ within)).mpr code, b₁, _, rfl, within, b₂, _, rfl,
      within₂, b₃, rest, rfl, within₃, rfl, rfl⟩

theorem readUnit_ne_of_leadByte {b : UInt8} (range : 0x80 ≤ b.toNat) (none : leadByte b = none)
    {bs rest : List UInt8} {c : Char} : readUnit b bs ≠ (some c, rest) := by
  rw [readUnit, if_neg (by omega), none]
  simp

theorem readUnit_sound {b : UInt8} {bs rest : List UInt8} {c : Char}
    (h : readUnit b bs = (some c, rest)) : b :: bs = String.utf8EncodeChar c ++ rest := by
  by_cases one : b.toNat < 0x80
  · obtain ⟨rfl, code⟩ := (readUnit_one_iff one).mp h
    rw [String.utf8EncodeChar, code, if_pos (by omega), UInt8.ofNat_toNat]
    rfl
  by_cases two : 0xc2 ≤ b.toNat ∧ b.toNat ≤ 0xdf
  · obtain ⟨b₁, rfl, within, code⟩ := (readUnit_two_iff two).mp h
    rw [String.utf8EncodeChar, if_neg (by omega), if_pos (by omega), code]
    simp only [List.cons_append, List.nil_append, List.cons.injEq, and_true, ← UInt8.toNat_inj,
      UInt8.toNat_ofNat']
    omega
  by_cases three : 0xe0 ≤ b.toNat ∧ b.toNat ≤ 0xef
  · obtain ⟨b₁, b₂, rfl, within, within₂, code⟩ := (readUnit_three_iff three).mp h
    have long : 0x800 ≤ c.val.toNat := by
      split_ifs at within <;> omega
    rw [String.utf8EncodeChar, if_neg (by omega), if_neg (by omega), if_pos (by omega), code]
    simp only [List.cons_append, List.nil_append, List.cons.injEq, and_true, ← UInt8.toNat_inj,
      UInt8.toNat_ofNat']
    split_ifs at within <;> omega
  by_cases four : 0xf0 ≤ b.toNat ∧ b.toNat ≤ 0xf4
  · obtain ⟨b₁, b₂, b₃, rfl, within, within₂, within₃, code⟩ := (readUnit_four_iff four).mp h
    have long : 0x10000 ≤ c.val.toNat := by
      split_ifs at within <;> omega
    rw [String.utf8EncodeChar, if_neg (by omega), if_neg (by omega), if_neg (by omega), code]
    simp only [List.cons_append, List.nil_append, List.cons.injEq, and_true, ← UInt8.toNat_inj,
      UInt8.toNat_ofNat']
    split_ifs at within <;> omega
  · have none : leadByte b = none := by
      rw [leadByte_eq, if_neg two, if_neg three, if_neg four]
    exact absurd h (readUnit_ne_of_leadByte (by omega) none)

theorem readUnit_complete {b : UInt8} {bs rest : List UInt8} {c : Char}
    (h : b :: bs = String.utf8EncodeChar c ++ rest) : readUnit b bs = (some c, rest) := by
  have valid : c.val.toNat.isValidChar := c.valid
  unfold Nat.isValidChar at valid
  unfold String.utf8EncodeChar at h
  dsimp only at h
  split_ifs at h with one two three
  · cases h
    refine (readUnit_one_iff ?_).mpr ⟨rfl, ?_⟩
    · rw [UInt8.toNat_ofNat']
      omega
    · rw [UInt8.toNat_ofNat']
      omega
  · cases h
    refine (readUnit_two_iff ?_).mpr ⟨_, rfl, ?_, ?_⟩ <;> simp only [UInt8.toNat_ofNat'] <;> omega
  · cases h
    refine (readUnit_three_iff ?_).mpr ⟨_, _, rfl, ?_, ?_, ?_⟩ <;> simp only [UInt8.toNat_ofNat']
    · omega
    · split_ifs <;> omega
    · omega
    · omega
  · cases h
    refine (readUnit_four_iff ?_).mpr ⟨_, _, _, rfl, ?_, ?_, ?_, ?_⟩ <;>
      simp only [UInt8.toNat_ofNat']
    · omega
    · split_ifs <;> omega
    · omega
    · omega
    · omega

theorem mapM_id_cons_iff {u : Option Char} {us : List (Option Char)} {cs : List Char} :
    (u :: us).mapM id = some cs ↔ ∃ c ds, u = some c ∧ us.mapM id = some ds ∧ c :: ds = cs := by
  rw [List.mapM_cons]
  cases u with
  | none => simp
  | some c => cases us.mapM id <;> simp

theorem mapM_units_iff (bs : List UInt8) (cs : List Char) :
    (units bs).mapM id = some cs ↔ bs = cs.flatMap String.utf8EncodeChar := by
  induction cs generalizing bs with
  | nil =>
      cases bs with
      | nil => simp [units]
      | cons b bs =>
          rw [units, mapM_id_cons_iff]
          simp
  | cons c cs ih =>
      rw [List.flatMap_cons]
      cases bs with
      | nil =>
          refine iff_of_false (by simp [units]) fun h => ?_
          obtain ⟨none, -⟩ := List.append_eq_nil_iff.mp h.symm
          exact absurd none (by simp)
      | cons b bs =>
          rw [units, mapM_id_cons_iff]
          constructor
          · rintro ⟨d, ds, first, later, same⟩
            cases same
            rw [← (ih _).mp later]
            exact readUnit_sound (Prod.ext first rfl)
          · intro h
            rw [readUnit_complete h]
            exact ⟨c, cs, rfl, (ih _).mpr rfl, rfl⟩

/-- Bytes are read as the text whose bytes they are. -/
theorem ofUtf8?_eq_some_iff {bs : List UInt8} {s : String} :
    ofUtf8? bs = some s ↔ bs = utf8 s := by
  rw [ofUtf8?, Option.map_eq_some_iff, utf8, ← mapM_units_iff]
  constructor
  · rintro ⟨cs, read, rfl⟩
    rw [read, String.toList_ofList]
  · intro read
    exact ⟨s.toList, read, String.ofList_toList⟩

/-- Decimal digits, with or without a plus sign, that are written for the word. -/
def IsWordText (s : String) (w : UInt64) : Prop :=
  ∃ ds, (s.toList = ds ∨ s.toList = '+' :: ds) ∧ ds ≠ [] ∧ (∀ d ∈ ds, IsDecimal d) ∧
    Nat.ofDigitChars 10 ds 0 = w.toNat

theorem le_ofDigitChars (n : Nat) (cs : List Char) : n ≤ Nat.ofDigitChars 10 cs n := by
  induction cs generalizing n with
  | nil => exact Nat.le_refl n
  | cons c cs ih =>
      rw [Nat.ofDigitChars_cons]
      exact Nat.le_trans (by omega) (ih _)

/-- The bound is kept all the way if it is kept at the end. -/
theorem readDigits_eq_some_iff {bound n m : Nat} {cs : List Char} (below : n < bound) :
    readDigits bound n cs = some m ↔
      (∀ c ∈ cs, IsDecimal c) ∧ Nat.ofDigitChars 10 cs n = m ∧ m < bound := by
  induction cs generalizing n with
  | nil =>
      rw [readDigits, Nat.ofDigitChars_nil, Option.some.injEq]
      constructor
      · rintro rfl
        exact ⟨fun _ mem => absurd mem List.not_mem_nil, rfl, below⟩
      · exact fun h => h.2.1
  | cons c cs ih =>
      rw [readDigits, List.forall_mem_cons, Nat.ofDigitChars_cons]
      by_cases digit : IsDecimal c
      · have value : digitValue? c = some (c.toNat - 0x30) := if_pos digit
        have next : 10 * n + (c.toNat - '0'.toNat) = n * 10 + (c.toNat - 0x30) :=
          congrArg (· + _) (Nat.mul_comm 10 n)
        rw [value, next]
        dsimp only
        split
        · rename_i small
          rw [ih small]
          simp [digit]
        · rename_i large
          refine iff_of_false (by simp) fun h => ?_
          have grows := le_ofDigitChars (n * 10 + (c.toNat - 0x30)) cs
          omega
      · have value : digitValue? c = none := if_neg digit
        rw [value]
        exact iff_of_false (by simp) fun h => digit h.1.1

theorem readWord?_of_sign {s : String} {ds : List Char} (text : s.toList = '+' :: ds)
    (some : ds ≠ []) : readWord? s = (readDigits wordBound 0 ds).map UInt64.ofNat := by
  rw [readWord?, text]
  cases ds with
  | nil => exact absurd rfl some
  | cons d ds => rfl

theorem readWord?_of_unsigned {s : String} (some : s.toList ≠ [])
    (unsigned : ∀ ds, s.toList ≠ '+' :: ds) :
    readWord? s = (readDigits wordBound 0 s.toList).map UInt64.ofNat := by
  rw [readWord?]
  split
  · rename_i none
    split at none
    · rename_i text
      exact absurd text (unsigned _)
    · exact absurd none some
  · split
    · rename_i text
      exact absurd text (unsigned _)
    · rfl

theorem readWord?_eq_some_iff {s : String} {w : UInt64} :
    readWord? s = some w ↔ IsWordText s w := by
  have number (ds : List Char) : (readDigits wordBound 0 ds).map UInt64.ofNat = some w ↔
      (∀ d ∈ ds, IsDecimal d) ∧ Nat.ofDigitChars 10 ds 0 = w.toNat := by
    simp only [Option.map_eq_some_iff, readDigits_eq_some_iff (show 0 < wordBound by decide)]
    constructor
    · rintro ⟨n, ⟨decimal, value, small⟩, rfl⟩
      exact ⟨decimal, value.trans (UInt64.toNat_ofNat_of_lt' small).symm⟩
    · rintro ⟨decimal, value⟩
      exact ⟨w.toNat, ⟨decimal, value, w.toNat_lt⟩, UInt64.ofNat_toNat⟩
  have unsigned {ds : List Char} (text : s.toList = ds) (decimal : ∀ d ∈ ds, IsDecimal d) :
      ∀ es, s.toList ≠ '+' :: es := by
    intro es same
    have sign : IsDecimal '+' := decimal '+' (by rw [← text, same]; exact List.mem_cons_self)
    exact absurd sign (by decide)
  constructor
  · intro read
    by_cases signed : ∃ ds, s.toList = '+' :: ds
    · obtain ⟨ds, text⟩ := signed
      have digits : ds ≠ [] := by
        rintro rfl
        simp [readWord?, text] at read
      rw [readWord?_of_sign text digits] at read
      exact ⟨ds, .inr text, digits, (number ds).mp read⟩
    · have digits : s.toList ≠ [] := by
        intro none
        simp [readWord?, none] at read
      rw [readWord?_of_unsigned digits (not_exists.mp signed)] at read
      exact ⟨s.toList, .inl rfl, digits, (number s.toList).mp read⟩
  · rintro ⟨ds, text | text, digits, decimal⟩
    · rw [readWord?_of_unsigned (text ▸ digits) (unsigned text decimal.1), text]
      exact (number ds).mpr decimal
    · rw [readWord?_of_sign text digits]
      exact (number ds).mpr decimal

end Text
end StreamPipelines
