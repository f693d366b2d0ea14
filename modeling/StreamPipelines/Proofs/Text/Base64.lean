import Mathlib.Tactic.Common
import StreamPipelines.Text.Base64

/-!
Base 64 read back: the digits of some bytes stand for these bytes and no others.
-/

namespace StreamPipelines
namespace Text

/-- The place of a digit in the alphabet. -/
def base64Value? (c : Char) : Option Nat :=
  base64Alphabet.idxOf? c

/-- The bytes that digits stand for. Only the last group may be filled up. -/
def readBase64 : List Char → Option (List UInt8)
  | [] => some []
  | a :: b :: c :: d :: rest =>
      match base64Value? a, base64Value? b, base64Value? c, base64Value? d with
      | some p, some q, some r, some s =>
          let n := ((p * 64 + q) * 64 + r) * 64 + s
          (readBase64 rest).map
            ([UInt8.ofNat (n / 65536), UInt8.ofNat (n / 256), UInt8.ofNat n] ++ ·)
      | some p, some q, some r, none =>
          let n := (p * 64 + q) * 64 + r
          if d = '=' ∧ rest = [] then some [UInt8.ofNat (n / 1024), UInt8.ofNat (n / 4)] else none
      | some p, some q, none, none =>
          let n := p * 64 + q
          if c = '=' ∧ d = '=' ∧ rest = [] then some [UInt8.ofNat (n / 16)] else none
      | _, _, _, _ => none
  | _ => none

theorem base64Value?_base64Digit (n : Nat) : base64Value? (base64Digit n) = some (n % 64) := by
  have all : ∀ m < 64, base64Value? (base64Alphabet.getD m '=') = some m := by decide +kernel
  exact all (n % 64) (Nat.mod_lt n (by decide))

theorem base64Value?_filler : base64Value? '=' = none := by
  decide

theorem ofNat_toNat_of_eq {n : Nat} {a : UInt8} (h : n % 256 = a.toNat) : UInt8.ofNat n = a := by
  apply UInt8.toNat_inj.mp
  rw [UInt8.toNat_ofNat', h]

theorem readBase64_base64Digits (bytes : List UInt8) :
    readBase64 (base64Digits bytes) = some bytes := by
  induction bytes using base64Digits.induct with
  | case1 => rfl
  | case2 a =>
      have byteA := a.toNat_lt
      simp only [base64Digits, readBase64, base64Value?_base64Digit, base64Value?_filler, and_self,
        if_true]
      rw [ofNat_toNat_of_eq (a := a) (by omega)]
  | case3 a b =>
      have byteA := a.toNat_lt
      have byteB := b.toNat_lt
      simp only [base64Digits, readBase64, base64Value?_base64Digit, base64Value?_filler, and_self,
        if_true]
      rw [ofNat_toNat_of_eq (a := a) (by omega), ofNat_toNat_of_eq (a := b) (by omega)]
  | case4 a b c rest ih =>
      have byteA := a.toNat_lt
      have byteB := b.toNat_lt
      have byteC := c.toNat_lt
      simp only [base64Digits, readBase64, base64Value?_base64Digit, ih, Option.map_some]
      rw [ofNat_toNat_of_eq (a := a) (by omega), ofNat_toNat_of_eq (a := b) (by omega),
        ofNat_toNat_of_eq (a := c) (by omega)]
      rfl

end Text
end StreamPipelines
