import StreamPipelines.Text.Utf8

/-!
The order of texts is the order of their bytes, because UTF-8 keeps the order of code points: of
two characters the lower one has the lower byte at the first place where they differ.
-/

namespace StreamPipelines
namespace Text

/-- Texts with the same bytes are equal. -/
theorem utf8_inj {s t : String} (h : utf8 s = utf8 t) : s = t := by
  have encoded : s.toList.utf8Encode = t.toList.utf8Encode := by
    unfold utf8 at h
    rw [List.utf8Encode, h, List.utf8Encode]
  rwa [String.utf8Encode_toList, String.utf8Encode_toList, String.toByteArray_inj] at encoded

/-- The bytes of a character decide against those of a greater one, whatever follows. -/
theorem utf8EncodeChar_append_lt {c d : Char} (below : c < d) (bs cs : List UInt8) :
    String.utf8EncodeChar c ++ bs < String.utf8EncodeChar d ++ cs := by
  have less : c.val.toNat < d.val.toNat := below
  have small : d.val.toNat < 0x110000 := by
    have valid := d.valid
    unfold UInt32.isValidChar Nat.isValidChar at valid
    omega
  have twice (n : Nat) : n / 4096 = n / 64 / 64 := by omega
  have thrice (n : Nat) : n / 262144 = n / 64 / 64 / 64 := by omega
  unfold String.utf8EncodeChar
  generalize c.val.toNat = m at *
  generalize d.val.toNat = n at *
  dsimp only
  -- One case for each pair of lengths.
  repeat' split
  all_goals
    simp only [List.cons_append, List.nil_append, List.cons_lt_cons_iff, UInt8.lt_iff_toNat_lt,
      ← UInt8.toNat_inj, UInt8.toNat_ofNat', twice, thrice]
    omega

theorem utf8_lt_utf8 {s t : String} (below : s < t) : utf8 s < utf8 t := by
  rw [String.lt_iff] at below
  unfold utf8
  generalize s.toList = cs at *
  generalize t.toList = ds at *
  induction cs generalizing ds with
  | nil =>
      cases ds with
      | nil => exact absurd below (List.not_lt_nil _)
      | cons d ds =>
          rw [List.flatMap_cons]
          cases bytes : String.utf8EncodeChar d with
          | nil => exact absurd bytes (by simp)
          | cons b bs => exact List.nil_lt_cons _ _
  | cons c cs ih =>
      cases ds with
      | nil => exact absurd below (List.not_lt_nil _)
      | cons d ds =>
          rw [List.flatMap_cons, List.flatMap_cons]
          obtain first | ⟨rfl, rest⟩ := List.cons_lt_cons_iff.mp below
          · exact utf8EncodeChar_append_lt first _ _
          · exact List.append_left_lt (ih ds rest)

end Text
end StreamPipelines
