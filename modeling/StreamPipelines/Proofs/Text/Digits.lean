import Mathlib.Algebra.Group.Nat.Defs
import StreamPipelines.Text.Decimal
import StreamPipelines.Text.Hex

/-!
Digits read back: the decimal digits of a number are read as that number, and so is each
hexadecimal digit. Decimal digits begin with zero for zero alone, and their count tells the powers
of ten between which the number lies.
-/

namespace StreamPipelines
namespace Text

def IsDecimal (c : Char) : Prop :=
  '0' ≤ c ∧ c ≤ '9'

instance (c : Char) : Decidable (IsDecimal c) :=
  inferInstanceAs (Decidable (_ ∧ _))

def IsHex (c : Char) : Prop :=
  (hexValue? c).isSome = true

/-- What holds of each character of ASCII, checked one by one. -/
theorem of_ascii {P : Char → Prop} (all : ∀ n < 128, P (Char.ofNat n)) {c : Char}
    (ascii : c.toNat < 128) : P c := by
  rw [← Char.ofNat_toNat c]
  exact all c.toNat ascii

/-- What holds of each character of a list, checked one by one. -/
theorem forall_mem_of_all {P : Char → Prop} [DecidablePred P] {cs : List Char}
    (all : cs.all (decide <| P ·) = true) : ∀ c ∈ cs, P c := by
  simpa using all

theorem IsDecimal.toNat_le {c : Char} (h : IsDecimal c) : 48 ≤ c.toNat ∧ c.toNat ≤ 57 :=
  ⟨UInt32.le_iff_toNat_le.mp h.1, UInt32.le_iff_toNat_le.mp h.2⟩

theorem IsHex.toNat_lt {c : Char} (h : IsHex c) : c.toNat < 128 := by
  unfold IsHex hexValue? at h
  split at h
  · rename_i range
    exact Nat.lt_of_le_of_lt (UInt32.le_iff_toNat_le.mp range.2) (by decide)
  · split at h
    · rename_i range
      exact Nat.lt_of_le_of_lt (UInt32.le_iff_toNat_le.mp range.2) (by decide)
    · split at h
      · rename_i range
        exact Nat.lt_of_le_of_lt (UInt32.le_iff_toNat_le.mp range.2) (by decide)
      · cases h

theorem digitValue?_digitChar (n : Nat) : digitValue? (digitChar n) = some (n % 10) := by
  have all : ∀ d < 10, digitValue? (Char.ofNat (0x30 + d)) = some d := by decide
  exact all (n % 10) (Nat.mod_lt n (by decide))

theorem hexValue?_digitChar (n : Nat) : hexValue? (digitChar n) = some (n % 10) := by
  have all : ∀ d < 10, hexValue? (Char.ofNat (0x30 + d)) = some d := by decide
  exact all (n % 10) (Nat.mod_lt n (by decide))

theorem isDecimal_digitChar (n : Nat) : IsDecimal (digitChar n) := by
  have all : ∀ d < 10, IsDecimal (Char.ofNat (0x30 + d)) := by decide
  exact all (n % 10) (Nat.mod_lt n (by decide))

theorem digitChar_ne_zero {n : Nat} (h : n % 10 ≠ 0) : digitChar n ≠ '0' := by
  have all : ∀ d < 10, d ≠ 0 → Char.ofNat (0x30 + d) ≠ '0' := by decide
  exact all (n % 10) (Nat.mod_lt n (by decide)) h

theorem hexValue?_hexDigit (n : Nat) : hexValue? (hexDigit n) = some (n % 16) := by
  have all : ∀ d < 16, hexValue? (if d < 10 then Char.ofNat (0x30 + d)
      else Char.ofNat (0x61 + d - 10)) = some d := by decide
  exact all (n % 16) (Nat.mod_lt n (by decide))

theorem digits_of_lt {n : Nat} (h : n < 10) : digits n = [digitChar n] := by
  rw [digits, if_pos h]

theorem digits_of_le {n : Nat} (h : 10 ≤ n) : digits n = digits (n / 10) ++ [digitChar n] := by
  rw [digits, if_neg (by omega)]

theorem digits_ne_nil (n : Nat) : digits n ≠ [] := by
  rw [digits]
  split <;> simp

theorem isDecimal_of_mem_digits {n : Nat} {c : Char} (h : c ∈ digits n) : IsDecimal c := by
  induction n using Nat.strongRecOn with
  | ind n ih =>
      by_cases small : n < 10
      · rw [digits_of_lt small] at h
        cases List.mem_singleton.mp h
        exact isDecimal_digitChar n
      · rw [digits_of_le (by omega)] at h
        obtain h | h := List.mem_append.mp h
        · exact ih (n / 10) (by omega) h
        · cases List.mem_singleton.mp h
          exact isDecimal_digitChar n

theorem head_digits_ne_zero {n : Nat} (pos : 0 < n) {c : Char} {cs : List Char}
    (h : digits n = c :: cs) : c ≠ '0' := by
  induction n using Nat.strongRecOn generalizing cs with
  | ind n ih =>
      by_cases small : n < 10
      · rw [digits_of_lt small] at h
        cases h
        exact digitChar_ne_zero (by omega)
      · rw [digits_of_le (by omega)] at h
        cases front : digits (n / 10) with
        | nil => exact absurd front (digits_ne_nil _)
        | cons d ds =>
            rw [front, List.cons_append] at h
            cases h
            exact ih (n / 10) (by omega) (by omega) front

theorem readDigits_digits {bound n : Nat} (h : n < bound) (cs : List Char) :
    readDigits bound 0 (digits n ++ cs) = readDigits bound n cs := by
  induction n using Nat.strongRecOn generalizing cs with
  | ind n ih =>
      by_cases small : n < 10
      · simp only [digits_of_lt small, List.singleton_append, readDigits, digitValue?_digitChar,
          Nat.mod_eq_of_lt small, Nat.zero_mul, Nat.zero_add, if_pos h]
      · have value : n / 10 * 10 + n % 10 = n := by omega
        rw [digits_of_le (by omega), List.append_assoc, ih (n / 10) (by omega) (by omega)]
        simp only [List.singleton_append, readDigits, digitValue?_digitChar, value, if_pos h]

theorem lt_of_readDigits {bound k n : Nat} {cs : List Char} (below : k < bound)
    (h : readDigits bound k cs = some n) : n < bound := by
  induction cs generalizing k with
  | nil =>
      cases h
      exact below
  | cons c cs ih =>
      simp only [readDigits] at h
      split at h
      · cases h
      · split at h
        · rename_i next
          exact ih next h
        · cases h

theorem digits_inj {m n : Nat} (same : digits m = digits n) : m = n := by
  have read (k : Nat) (h : k < m + n + 1) : readDigits (m + n + 1) 0 (digits k) = some k := by
    simpa [readDigits] using readDigits_digits h []
  have readM := read m (by omega)
  rw [same, read n (by omega)] at readM
  exact (Option.some.inj readM).symm

theorem natText_inj {m n : Nat} (same : natText m = natText n) : m = n :=
  digits_inj (String.ofList_injective same)

theorem length_digits_pos (n : Nat) : 0 < (digits n).length :=
  List.length_pos_iff.mpr (digits_ne_nil n)

/-- A number lies below the first power of ten with more digits. -/
theorem lt_pow_length_digits (n : Nat) : n < 10 ^ (digits n).length := by
  induction n using Nat.strongRecOn with
  | ind n ih =>
      by_cases small : n < 10
      · rw [digits_of_lt small]
        exact small
      · have front := ih (n / 10) (by omega)
        rw [digits_of_le (by omega), List.length_append, List.length_singleton, Nat.pow_succ]
        omega

theorem pow_length_digits_le {n : Nat} (pos : 0 < n) : 10 ^ ((digits n).length - 1) ≤ n := by
  induction n using Nat.strongRecOn with
  | ind n ih =>
      by_cases small : n < 10
      · rw [digits_of_lt small]
        exact pos
      · have front := ih (n / 10) (by omega) (by omega)
        obtain ⟨k, length⟩ := Nat.exists_eq_add_of_lt (length_digits_pos (n / 10))
        rw [length] at front
        rw [digits_of_le (by omega), List.length_append, List.length_singleton, length]
        simp only [Nat.zero_add, Nat.add_sub_cancel] at *
        rw [Nat.pow_succ]
        omega

theorem digits_mul_pow {n : Nat} (pos : 0 < n) (k : Nat) :
    digits (n * 10 ^ k) = digits n ++ List.replicate k '0' := by
  induction k with
  | zero => simp
  | succ k ih =>
      have front : 0 < n * 10 ^ k := Nat.mul_pos pos (Nat.pow_pos (by decide))
      have last : digitChar (n * 10 ^ k * 10) = '0' := by
        rw [digitChar, Nat.mul_mod_left]
      rw [Nat.pow_succ, ← Nat.mul_assoc, digits_of_le (by omega), last,
        Nat.mul_div_cancel _ (by decide), ih, List.append_assoc, List.replicate_succ']

def BeginsWithDigit (cs : List Char) : Prop :=
  ∃ c ds, cs = c :: ds ∧ IsDecimal c

def signed (negative : Bool) (cs : List Char) : List Char :=
  if negative then '-' :: cs else cs

theorem beginsWithDigit_digits (n : Nat) : BeginsWithDigit (digits n) := by
  obtain ⟨c, ds, cons⟩ := List.exists_cons_of_ne_nil (digits_ne_nil n)
  exact ⟨c, ds, cons, isDecimal_of_mem_digits (n := n) (by simp [cons])⟩

theorem mem_signed {negative : Bool} {cs : List Char} {c : Char} (mem : c ∈ signed negative cs) :
    c = '-' ∨ c ∈ cs := by
  cases negative with
  | false => exact .inr mem
  | true => exact List.mem_cons.mp mem

theorem signed_inj {a b : Bool} {cs ds : List Char} (hc : BeginsWithDigit cs)
    (hd : BeginsWithDigit ds) (same : signed a cs = signed b ds) : a = b ∧ cs = ds := by
  obtain ⟨c, cs, rfl, isDecimal⟩ := hc
  obtain ⟨d, ds, rfl, isDecimal'⟩ := hd
  cases a <;> cases b
  · exact ⟨rfl, same⟩
  · cases same
    exact absurd isDecimal (by decide)
  · cases same
    exact absurd isDecimal' (by decide)
  · exact ⟨rfl, (List.cons.inj same).2⟩

theorem toList_intText (i : Int) :
    (intText i).toList = signed (decide (i < 0)) (digits i.natAbs) := by
  unfold intText signed
  by_cases below : i < 0
  · rw [if_pos below, if_pos (decide_eq_true below), String.toList_ofList]
  · rw [if_neg below, if_neg (by simp [below]), natText, String.toList_ofList]

theorem hexDigits_of_lt {n : Nat} (h : n < 16) : hexDigits n = [hexDigit n] := by
  rw [hexDigits, if_pos h]

theorem hexDigits_of_le {n : Nat} (h : 16 ≤ n) :
    hexDigits n = hexDigits (n / 16) ++ [hexDigit n] := by
  rw [hexDigits, if_neg (by omega)]

theorem hexDigits_ne_nil (n : Nat) : hexDigits n ≠ [] := by
  rw [hexDigits]
  split <;> simp

theorem isHex_of_mem_hexDigits {n : Nat} {c : Char} (h : c ∈ hexDigits n) : IsHex c := by
  induction n using Nat.strongRecOn with
  | ind n ih =>
      by_cases small : n < 16
      · rw [hexDigits_of_lt small] at h
        cases List.mem_singleton.mp h
        simp [IsHex, hexValue?_hexDigit]
      · rw [hexDigits_of_le (by omega)] at h
        obtain h | h := List.mem_append.mp h
        · exact ih (n / 16) (by omega) h
        · cases List.mem_singleton.mp h
          simp [IsHex, hexValue?_hexDigit]

theorem length_hexDigits_le {n k : Nat} (h : n < 16 ^ (k + 1)) :
    (hexDigits n).length ≤ k + 1 := by
  induction k generalizing n with
  | zero => simp [hexDigits_of_lt (by simpa using h)]
  | succ k ih =>
      by_cases small : n < 16
      · simp [hexDigits_of_lt small]
      · rw [hexDigits_of_le (by omega), List.length_append, List.length_singleton]
        have shorter := ih (n := n / 16) (by
          rw [Nat.pow_succ] at h
          exact Nat.div_lt_of_lt_mul (by omega))
        omega

end Text
end StreamPipelines
