import StreamPipelines.Proofs.Text.Digits
import StreamPipelines.Url.Host

/-!
The text of an IPv6 address reads back. Its pieces are read one after the other; a double colon
stands for the run of zeros that the text leaves out.
-/

namespace StreamPipelines
namespace Url
namespace Host

open Text (hexDigits hexValue?)

/-- The text does not go on with a hexadecimal digit. -/
def EndsHex (cs : List Char) : Prop :=
  ∀ c, cs.head? = some c → hexValue? c = none

theorem endsHex_nil : EndsHex [] :=
  nofun

theorem endsHex_colon (cs : List Char) : EndsHex (':' :: cs) := by
  intro c h
  cases h
  decide

theorem takeHex_hexDigits (room n : Nat) (rest : List Char) :
    takeHex (room + (hexDigits n).length) 0 (hexDigits n ++ rest) = takeHex room n rest := by
  induction n using Nat.strongRecOn generalizing room rest with
  | ind n ih =>
      by_cases small : n < 16
      · simp [Text.hexDigits_of_lt small, takeHex, Text.hexValue?_hexDigit,
          Nat.mod_eq_of_lt small]
      · have value : n / 16 * 16 + n % 16 = n := by omega
        have front := ih (n / 16) (by omega) (room + 1) (Text.hexDigit n :: rest)
        rw [Text.hexDigits_of_le (by omega), List.append_assoc, List.length_append,
          List.length_singleton, List.singleton_append, Nat.add_comm _ 1, ← Nat.add_assoc, front]
        simp only [takeHex, Text.hexValue?_hexDigit, value]

theorem takeHex_of_endsHex {rest : List Char} (h : EndsHex rest) (room n : Nat) :
    takeHex room n rest = (n, rest) := by
  cases room with
  | zero => rfl
  | succ room =>
      cases rest with
      | nil => rfl
      | cons c rest => simp only [takeHex, h c rfl]

theorem takeHex_piece (piece : UInt16) {rest : List Char} (h : EndsHex rest) :
    takeHex 4 0 (hexDigits piece.toNat ++ rest) = (piece.toNat, rest) := by
  have short : (hexDigits piece.toNat).length ≤ 4 :=
    Text.length_hexDigits_le (k := 3) piece.toNat_lt
  obtain ⟨room, digits⟩ := Nat.exists_eq_add_of_le short
  rw [digits, Nat.add_comm, takeHex_hexDigits, takeHex_of_endsHex h]

theorem push_nil (p : Ipv6Pieces) : p.push [] = p := by
  cases p with
  | mk before behind => cases behind <;> simp [Ipv6Pieces.push]

theorem push_push (p : Ipv6Pieces) (xs ys : List UInt16) :
    (p.push xs).push ys = p.push (xs ++ ys) := by
  cases p with
  | mk before behind => cases behind <;> simp [Ipv6Pieces.push]

theorem count_push (p : Ipv6Pieces) (xs : List UInt16) :
    (p.push xs).count = p.count + xs.length := by
  cases p with
  | mk before behind => cases behind <;> simp [Ipv6Pieces.push, Ipv6Pieces.count, Nat.add_assoc]

theorem piecesChars_singleton (piece : UInt16) :
    piecesChars [piece] = hexDigits piece.toNat := by
  simp [piecesChars, List.intercalate]

theorem piecesChars_cons (piece next : UInt16) (more : List UInt16) :
    piecesChars (piece :: next :: more) =
      hexDigits piece.toNat ++ ':' :: piecesChars (next :: more) := by
  simp [piecesChars, List.intercalate]

theorem exists_hexDigits (n : Nat) : ∃ c cs, hexDigits n = c :: cs ∧ c ≠ ':' := by
  obtain ⟨c, cs, split⟩ := List.exists_cons_of_ne_nil (Text.hexDigits_ne_nil n)
  refine ⟨c, cs, split, ?_⟩
  rintro rfl
  have hex := Text.isHex_of_mem_hexDigits (n := n) (c := ':') (by simp [split])
  simp [Text.IsHex, hexValue?] at hex

theorem exists_piecesChars (piece : UInt16) (more : List UInt16) :
    ∃ c cs, piecesChars (piece :: more) = c :: cs ∧ c ≠ ':' := by
  obtain ⟨c, cs, split, other⟩ := exists_hexDigits piece.toNat
  cases more with
  | nil => exact ⟨c, cs, (piecesChars_singleton piece).trans split, other⟩
  | cons next more => exact ⟨c, _, by rw [piecesChars_cons, split, List.cons_append], other⟩

theorem readPieces_last (fuel : Nat) {p : Ipv6Pieces} (room : p.count < 8) (piece : UInt16) :
    readPieces (fuel + 1) p (hexDigits piece.toNat) = some (p.push [piece]) := by
  have taken := takeHex_piece piece endsHex_nil
  obtain ⟨c, cs, split, other⟩ := exists_hexDigits piece.toNat
  rw [List.append_nil, split] at taken
  rw [split]
  simp [readPieces, other, room, taken]

theorem readPieces_next (fuel : Nat) {p : Ipv6Pieces} (room : p.count < 8) (piece : UInt16)
    (c : Char) (rest : List Char) :
    readPieces (fuel + 1) p (hexDigits piece.toNat ++ ':' :: c :: rest) =
      readPieces fuel (p.push [piece]) (c :: rest) := by
  have taken := takeHex_piece piece (endsHex_colon (c :: rest))
  obtain ⟨d, ds, split, other⟩ := exists_hexDigits piece.toNat
  rw [split, List.cons_append] at taken
  rw [split, List.cons_append]
  simp [readPieces, other, room, taken]

/-- The fuel suffices for a step at each piece and one more. -/
theorem readPieces_piecesChars (ps : List UInt16) {p : Ipv6Pieces} {fuel : Nat}
    (enough : ps.length < fuel) (room : p.count + ps.length ≤ 8) :
    readPieces fuel p (piecesChars ps) = some (p.push ps) := by
  induction ps generalizing p fuel with
  | nil =>
      obtain ⟨fuel, rfl⟩ := Nat.exists_eq_add_of_lt enough
      rw [push_nil]
      rfl
  | cons piece ps ih =>
      obtain ⟨fuel, rfl⟩ := Nat.exists_eq_add_of_lt enough
      rw [List.length_cons] at room
      cases ps with
      | nil =>
          rw [piecesChars_singleton]
          exact readPieces_last _ (by omega) piece
      | cons next more =>
          obtain ⟨c, cs, split, -⟩ := exists_piecesChars next more
          rw [piecesChars_cons, split, readPieces_next _ (by omega) piece, ← split,
            ih (by simp [Nat.add_comm]; omega) (by rw [count_push, List.length_singleton]; omega),
            push_push]
          rfl

theorem readPieces_colon (fuel : Nat) {before : List UInt16} (room : before.length < 8)
    (cs : List Char) :
    readPieces (fuel + 1) ⟨before, none⟩ (':' :: cs) = readPieces fuel ⟨before, some []⟩ cs := by
  simp [readPieces, Ipv6Pieces.count, room]

/-- The pieces before a double colon and those behind it. -/
theorem readPieces_doubleColon (ps qs : List UInt16) (present : ps ≠ []) {before : List UInt16}
    {fuel : Nat} (enough : ps.length + 1 + qs.length < fuel)
    (room : before.length + ps.length + 1 + qs.length ≤ 8) :
    readPieces fuel ⟨before, none⟩ (piecesChars ps ++ ':' :: ':' :: piecesChars qs) =
      some ⟨before ++ ps, some qs⟩ := by
  induction ps generalizing before fuel with
  | nil => exact absurd rfl present
  | cons piece ps ih =>
      simp only [List.length_cons] at enough room
      have free : (⟨before, none⟩ : Ipv6Pieces).count < 8 := by
        simp only [Ipv6Pieces.count]
        omega
      have pushed : (⟨before, none⟩ : Ipv6Pieces).push [piece] = ⟨before ++ [piece], none⟩ := rfl
      cases ps with
      | nil =>
          simp only [List.length_nil] at enough room
          obtain ⟨fuel, rfl⟩ : ∃ f, fuel = f + 1 + 1 := ⟨fuel - 2, by omega⟩
          rw [piecesChars_singleton, readPieces_next _ free, pushed,
            readPieces_colon _ (by simp only [List.length_append, List.length_singleton]; omega),
            readPieces_piecesChars qs (by omega) (by simp [Ipv6Pieces.count]; omega)]
          rfl
      | cons next more =>
          obtain ⟨fuel, rfl⟩ : ∃ f, fuel = f + 1 := ⟨fuel - 1, by omega⟩
          obtain ⟨c, cs, split, -⟩ := exists_piecesChars next more
          rw [piecesChars_cons, List.append_assoc, List.cons_append, split, List.cons_append,
            readPieces_next _ free, pushed, ← List.cons_append, ← split,
            ih (by simp) (by omega)
              (by simp only [List.length_append, List.length_singleton]; omega)]
          simp

theorem take_leadingZeros (pieces : List UInt16) :
    pieces.take (leadingZeros pieces) = List.replicate (leadingZeros pieces) 0 := by
  induction pieces with
  | nil => rfl
  | cons piece pieces ih =>
      by_cases zero : piece = 0
      · simpa [leadingZeros, zero, List.replicate_succ] using ih
      · simp [leadingZeros, zero]

theorem leadingZeros_le (pieces : List UInt16) : leadingZeros pieces ≤ pieces.length :=
  (List.takeWhile_sublist _).length_le

/-- The pieces of the run are there, and they are zeros. -/
theorem longestZeros_spec (pieces : List UInt16) :
    (longestZeros pieces).1 + (longestZeros pieces).2 ≤ pieces.length ∧
      pieces = pieces.take (longestZeros pieces).1 ++
        List.replicate (longestZeros pieces).2 0 ++
        pieces.drop ((longestZeros pieces).1 + (longestZeros pieces).2) := by
  induction pieces with
  | nil => simp [longestZeros]
  | cons piece pieces ih =>
      simp only [longestZeros]
      split
      · refine ⟨by simpa using leadingZeros_le (piece :: pieces), ?_⟩
        rw [← take_leadingZeros, List.take_zero, List.nil_append, Nat.zero_add,
          List.take_append_drop]
      · obtain ⟨le, split⟩ := ih
        refine ⟨by simp only [List.length_cons]; omega, ?_⟩
        rw [Nat.add_right_comm, List.take_succ_cons, List.drop_succ_cons, List.cons_append,
          List.cons_append, ← split]

theorem le_length_piecesChars (ps : List UInt16) : ps.length ≤ (piecesChars ps).length := by
  induction ps with
  | nil => exact Nat.le_refl _
  | cons piece ps ih =>
      have pos := List.length_pos_iff.mpr (Text.hexDigits_ne_nil piece.toNat)
      cases ps with
      | nil =>
          rw [piecesChars_singleton]
          exact pos
      | cons next more =>
          simp only [piecesChars_cons, List.length_append, List.length_cons] at ih ⊢
          omega

theorem vector_of_toList {p : Ipv6Pieces} {pieces : Vector UInt16 8}
    (all : p.toList = pieces.toList) :
    (if h : p.toList.length = 8 then
      some (⟨p.toList.toArray, by simpa using h⟩ : Vector UInt16 8) else none) = some pieces := by
  simp [all, Vector.toList]

theorem readIpv6_of_doubleColon {rest : List Char} {p : Ipv6Pieces} {pieces : Vector UInt16 8}
    (read : readPieces (rest.length + 3) ⟨[], some []⟩ rest = some p)
    (all : p.toList = pieces.toList) : readIpv6 (':' :: ':' :: rest) = some pieces := by
  simp only [readIpv6, List.length_cons, Nat.add_assoc, read, Option.bind_eq_bind,
    Option.bind_some, vector_of_toList all]

theorem readIpv6_of_piece {c d : Char} {rest : List Char} (other : c ≠ ':') {p : Ipv6Pieces}
    {pieces : Vector UInt16 8}
    (read : readPieces (rest.length + 3) ⟨[], none⟩ (c :: d :: rest) = some p)
    (all : p.toList = pieces.toList) : readIpv6 (c :: d :: rest) = some pieces := by
  simp [readIpv6, other, read, vector_of_toList all]

theorem exists_two_of_length {cs : List Char} (h : 2 ≤ cs.length) :
    ∃ c d rest, cs = c :: d :: rest := by
  match cs, h with
  | c :: d :: rest, _ => exact ⟨c, d, rest, rfl⟩

theorem readIpv6_piecesChars (pieces : Vector UInt16 8) :
    readIpv6 (piecesChars pieces.toList) = some pieces := by
  have eight : pieces.toList.length = 8 := by simp
  obtain ⟨piece, more, split⟩ := List.exists_cons_of_length_pos (l := pieces.toList) (by omega)
  have long := le_length_piecesChars pieces.toList
  have two : 2 ≤ (piecesChars pieces.toList).length := by omega
  obtain ⟨c, d, rest, text⟩ := exists_two_of_length two
  obtain ⟨first, others, text', other⟩ := exists_piecesChars piece more
  rw [← split, text] at text'
  cases text'
  rw [text, List.length_cons, List.length_cons] at long
  have read : readPieces (rest.length + 3) ⟨[], none⟩ (piecesChars pieces.toList) =
      some ⟨[] ++ pieces.toList, none⟩ :=
    readPieces_piecesChars _ (by omega) (by simp [Ipv6Pieces.count])
  rw [text] at read ⊢
  exact readIpv6_of_piece other read rfl

theorem readIpv6_of_zeros {pieces : Vector UInt16 8} (before behind : List UInt16) {zeros : Nat}
    (two : 2 ≤ zeros)
    (all : pieces.toList = before ++ List.replicate zeros 0 ++ behind) :
    readIpv6 (piecesChars before ++ ':' :: ':' :: piecesChars behind) = some pieces := by
  have eight : before.length + zeros + behind.length = 8 := by
    have same := congrArg List.length all
    simpa [Nat.add_assoc] using same.symm
  have whole (p : Ipv6Pieces) (h : p = ⟨before, some behind⟩) : p.toList = pieces.toList := by
    rw [h, all, show zeros = 8 - before.length - behind.length by omega]
    rfl
  have long := le_length_piecesChars behind
  cases before with
  | nil =>
      have read : readPieces ((piecesChars behind).length + 3) ⟨[], some []⟩
          (piecesChars behind) = some ⟨[], some ([] ++ behind)⟩ :=
        readPieces_piecesChars _ (by omega) (by simp [Ipv6Pieces.count]; omega)
      exact readIpv6_of_doubleColon read (whole _ rfl)
  | cons piece more =>
      obtain ⟨c, cs, text, other⟩ := exists_piecesChars piece more
      have front := le_length_piecesChars (piece :: more)
      rw [text] at front
      simp only [List.length_cons] at eight front
      obtain ⟨d, rest, next⟩ := List.exists_cons_of_ne_nil
        (l := cs ++ ':' :: ':' :: piecesChars behind) (by simp)
      have length := congrArg List.length next
      simp only [List.length_append, List.length_cons] at length
      have read : readPieces (rest.length + 3) ⟨[], none⟩
          (piecesChars (piece :: more) ++ ':' :: ':' :: piecesChars behind) =
            some ⟨[] ++ piece :: more, some behind⟩ :=
        readPieces_doubleColon _ _ (by simp) (by simp only [List.length_cons]; omega)
          (by simp only [List.length_cons, List.length_nil]; omega)
      rw [text, List.cons_append, next] at read ⊢
      exact readIpv6_of_piece other read (whole _ rfl)

theorem readIpv6_ipv6Chars (pieces : Vector UInt16 8) :
    readIpv6 (ipv6Chars pieces) = some pieces := by
  obtain ⟨-, all⟩ := longestZeros_spec pieces.toList
  unfold ipv6Chars
  by_cases short : (longestZeros pieces.toList).2 < 2
  · simp only [if_pos short]
    exact readIpv6_piecesChars pieces
  · simp only [if_neg short]
    exact readIpv6_of_zeros _ _ (by omega) all

theorem isHex_or_colon_of_mem_piecesChars {ps : List UInt16} {c : Char}
    (h : c ∈ piecesChars ps) : Text.IsHex c ∨ c = ':' := by
  induction ps with
  | nil => cases h
  | cons piece ps ih =>
      cases ps with
      | nil =>
          rw [piecesChars_singleton] at h
          exact .inl (Text.isHex_of_mem_hexDigits h)
      | cons next more =>
          rw [piecesChars_cons] at h
          obtain h | h := List.mem_append.mp h
          · exact .inl (Text.isHex_of_mem_hexDigits h)
          · obtain rfl | h := List.mem_cons.mp h
            · exact .inr rfl
            · exact ih h

theorem isHex_or_colon_of_mem_ipv6Chars {pieces : Vector UInt16 8} {c : Char}
    (h : c ∈ ipv6Chars pieces) : Text.IsHex c ∨ c = ':' := by
  unfold ipv6Chars at h
  simp only at h
  split at h
  · exact isHex_or_colon_of_mem_piecesChars h
  · obtain h | h := List.mem_append.mp h
    · exact isHex_or_colon_of_mem_piecesChars h
    · obtain rfl | rfl | h := (by simpa using h : c = ':' ∨ c = ':' ∨ _)
      · exact .inr rfl
      · exact .inr rfl
      · exact isHex_or_colon_of_mem_piecesChars h

end Host
end Url
end StreamPipelines
