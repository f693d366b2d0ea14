import Mathlib.Data.List.Basic
import StreamPipelines.Proofs.Binary64.Shortest

/-!
The text of a floating-point number can be read back. The place of the point tells the power of
the first digit where the layout is positional, and the exponent tells it elsewhere; what stays
of the digits without the zeros around them are the shortest ones. So two numbers have one text
only if they are equal, signed zeros included.
-/

namespace StreamPipelines
namespace Binary64

open Text (IsDecimal digits)

/-- Decimal digits without zeros at the ends. -/
structure IsTrimmed (ds : List Char) : Prop where
  isDecimal : ∀ c ∈ ds, IsDecimal c
  head : ∃ c cs, ds = c :: cs ∧ c ≠ '0'
  last : ds.getLast? ≠ some '0'

theorem getLast?_dropTrailingZeros (ds : List Char) :
    (dropTrailingZeros ds).getLast? ≠ some '0' := by
  intro last
  rw [dropTrailingZeros, List.getLast?_reverse] at last
  have stop := List.head?_dropWhile_not (· == '0') ds.reverse
  rw [last] at stop
  exact absurd stop (by decide)

theorem isTrimmed_digits {d : Nat} (pos : 0 < d) : IsTrimmed (dropTrailingZeros (digits d)) := by
  obtain ⟨zeros, split⟩ := eq_dropTrailingZeros_append (digits d)
  refine ⟨fun c mem => ?_, ?_, getLast?_dropTrailingZeros _⟩
  · apply Text.isDecimal_of_mem_digits (n := d)
    rw [split]
    exact List.mem_append_left _ mem
  · generalize dropTrailingZeros (digits d) = ds at split
    cases ds with
    | nil =>
        cases zeros with
        | zero => exact absurd split (Text.digits_ne_nil d)
        | succ zeros => exact absurd rfl (Text.head_digits_ne_zero pos split)
    | cons c cs => exact ⟨c, cs, rfl, Text.head_digits_ne_zero pos split⟩

theorem isTrimmed_shortest {x : Binary64} (pos : 0 < x.units) : IsTrimmed x.shortest.1 := by
  obtain ⟨d, k, dPos, -, shortest⟩ := exists_shortest pos
  rw [shortest]
  exact isTrimmed_digits dPos

namespace IsTrimmed

variable {ds es : List Char}

theorem dropTrailingZeros_append (h : IsTrimmed ds) (zeros : Nat) :
    dropTrailingZeros (ds ++ List.replicate zeros '0') = ds := by
  rw [dropTrailingZeros, List.reverse_append, List.reverse_replicate]
  induction zeros with
  | zero =>
      have last := h.last
      rw [List.getLast?_eq_head?_reverse] at last
      rw [List.replicate_zero, List.nil_append, ← List.reverse_inj, List.reverse_reverse]
      cases digits : ds.reverse with
      | nil => rfl
      | cons c cs =>
          rw [digits, List.head?_cons] at last
          exact List.dropWhile_cons_of_neg fun zero => last (congrArg some (eq_of_beq zero))
  | succ zeros ih => exact ih

theorem eq_of_append (hd : IsTrimmed ds) (he : IsTrimmed es) {a b : Nat}
    (same : ds ++ List.replicate a '0' = es ++ List.replicate b '0') : ds = es := by
  rw [← hd.dropTrailingZeros_append a, same, he.dropTrailingZeros_append b]

theorem eq_of_replicate_append (hd : IsTrimmed ds) (he : IsTrimmed es) {a b : Nat}
    (same : List.replicate a '0' ++ ds = List.replicate b '0' ++ es) : a = b ∧ ds = es := by
  induction a generalizing b with
  | zero =>
      cases b with
      | zero => exact ⟨rfl, same⟩
      | succ b =>
          obtain ⟨c, cs, rfl, notZero⟩ := hd.head
          cases same
          exact absurd rfl notZero
  | succ a ih =>
      cases b with
      | zero =>
          obtain ⟨c, cs, rfl, notZero⟩ := he.head
          cases same
          exact absurd rfl notZero
      | succ b => exact (ih (List.cons.inj same).2).imp_left (congrArg (· + 1))

end IsTrimmed

namespace Layout

variable {ds es : List Char}

/-- The digits before the point are one more than the power, and all digits together are the given
ones with zeros after them. -/
theorem exists_positional_ofNat (ds : List Char) (k : Nat) :
    ∃ whole part zeros, positional ds (.ofNat k) = whole ++ '.' :: part ∧
      whole.length = k + 1 ∧ whole ++ part = ds ++ List.replicate zeros '0' := by
  obtain long | short := Nat.lt_or_ge (k + 1) ds.length
  · have part : ds.drop (k + 1) ≠ [] := by
      rw [ne_eq, List.drop_eq_nil_iff]
      omega
    have whole : positional ds (.ofNat k) = ds.take (k + 1) ++ '.' :: ds.drop (k + 1) := by
      simp [positional, Nat.sub_eq_zero_of_le long.le, part]
    refine ⟨_, _, 0, whole, ?_, ?_⟩
    · rw [List.length_take, Nat.min_eq_left long.le]
    · rw [List.take_append_drop, List.replicate_zero, List.append_nil]
  · have whole : positional ds (.ofNat k) =
        ds ++ List.replicate (k + 1 - ds.length) '0' ++ '.' :: ['0'] := by
      simp [positional, List.drop_eq_nil_of_le short, List.take_of_length_le,
        Nat.add_sub_cancel' short]
    refine ⟨_, _, k + 1 - ds.length + 1, whole, ?_, ?_⟩
    · rw [List.length_append, List.length_replicate, Nat.add_sub_cancel' short]
    · rw [List.append_assoc, List.replicate_succ']

theorem notMem_of_append_eq {whole part : List Char} {zeros : Nat} (hd : IsTrimmed ds)
    (all : whole ++ part = ds ++ List.replicate zeros '0') : '.' ∉ whole ∧ '.' ∉ part := by
  have point : '.' ∉ whole ++ part := by
    rw [all, List.mem_append, List.mem_replicate]
    rintro (mem | ⟨-, point⟩)
    · exact absurd (hd.isDecimal _ mem) (by decide)
    · exact absurd point (by decide)
  rw [List.mem_append] at point
  exact not_or.mp point

theorem point_mem_positional (ds : List Char) (k : Int) : '.' ∈ positional ds k := by
  cases k with
  | ofNat k =>
      obtain ⟨whole, part, zeros, text, -⟩ := exists_positional_ofNat ds k
      rw [text]
      exact List.mem_append_right _ (List.mem_cons_self ..)
  | negSucc k =>
      exact List.mem_append_left _ (List.mem_cons_of_mem _ (List.mem_cons_self ..))

theorem mem_positional (hd : ∀ c ∈ ds, IsDecimal c) {k : Int} {c : Char}
    (mem : c ∈ positional ds k) : IsDecimal c ∨ c = '.' := by
  have zero {n : Nat} (zero : c ∈ List.replicate n '0') : IsDecimal c := by
    rw [(List.mem_replicate.mp zero).2]
    decide
  cases k with
  | ofNat k =>
      obtain ⟨whole, part, zeros, text, -, all⟩ := exists_positional_ofNat ds k
      have around : c = '.' ∨ c ∈ whole ++ part := by
        rw [text, List.mem_append, List.mem_cons] at mem
        rw [List.mem_append]
        exact or_left_comm.mp mem
      obtain rfl | digit := around
      · exact .inr rfl
      · rw [all, List.mem_append] at digit
        exact .inl (digit.elim (hd c) zero)
  | negSucc k =>
      have mem : c ∈ '0' :: '.' :: (List.replicate k '0' ++ ds) := mem
      rw [List.mem_cons, List.mem_cons, List.mem_append] at mem
      obtain rfl | rfl | digit := mem
      · exact .inl (by decide)
      · exact .inr rfl
      · exact .inl (digit.elim zero (hd c))

theorem beginsWithDigit_positional (hd : IsTrimmed ds) (k : Int) :
    Text.BeginsWithDigit (positional ds k) := by
  cases k with
  | ofNat k =>
      obtain ⟨whole, part, zeros, text, length, all⟩ := exists_positional_ofNat ds k
      obtain ⟨c, more, rfl, -⟩ := hd.head
      cases whole with
      | nil => cases length
      | cons w whole =>
          refine ⟨w, _, text, hd.isDecimal w ?_⟩
          rw [(List.cons.inj all).1]
          exact List.mem_cons_self ..
  | negSucc k => exact ⟨'0', _, rfl, by decide⟩

/-- From the power zero on the text begins with the first digit, else with a zero. -/
theorem positional_ofNat_ne (hd : IsTrimmed ds) (k : Nat) (cs : List Char) :
    positional ds (.ofNat k) ≠ '0' :: cs := by
  intro same
  obtain ⟨whole, part, zeros, text, length, all⟩ := exists_positional_ofNat ds k
  obtain ⟨c, more, rfl, notZero⟩ := hd.head
  cases whole with
  | nil => cases length
  | cons w whole =>
      rw [text] at same
      exact notZero ((List.cons.inj all).1.symm.trans (List.cons.inj same).1)

theorem positional_inj (hd : IsTrimmed ds) (he : IsTrimmed es) {j k : Int}
    (same : positional ds j = positional es k) : ds = es ∧ j = k := by
  cases j with
  | ofNat j =>
      cases k with
      | ofNat k =>
          obtain ⟨_, _, _, text, length, all⟩ := exists_positional_ofNat ds j
          obtain ⟨_, _, _, text', length', all'⟩ := exists_positional_ofNat es k
          obtain ⟨noPoint, -⟩ := notMem_of_append_eq hd all
          obtain ⟨-, noPoint'⟩ := notMem_of_append_eq hd all
          rw [text, text', List.append_cons_inj_of_notMem noPoint noPoint'] at same
          obtain ⟨rfl, -, rfl⟩ := same
          have power : j = k := Nat.succ.inj (length.symm.trans length')
          exact ⟨hd.eq_of_append he (all.symm.trans all'), congrArg Int.ofNat power⟩
      | negSucc k => exact absurd same (positional_ofNat_ne hd j _)
  | negSucc j =>
      cases k with
      | ofNat k => exact absurd same.symm (positional_ofNat_ne he k _)
      | negSucc k =>
          have digits := (List.cons.inj (List.cons.inj same).2).2
          obtain ⟨power, rest⟩ := hd.eq_of_replicate_append he digits
          exact ⟨rest, congrArg Int.negSucc power⟩

/-- A lone zero on both sides of the point is the text of no shortest digits. -/
theorem positional_ne_zero (hd : IsTrimmed ds) (k : Int) : positional ds k ≠ ['0', '.', '0'] := by
  cases k with
  | ofNat k => exact positional_ofNat_ne hd k _
  | negSucc k =>
      intro same
      have digits : List.replicate k '0' ++ ds = ['0'] := (List.cons.inj (List.cons.inj same).2).2
      have last := congrArg List.getLast? digits
      obtain ⟨c, cs, cons, -⟩ := hd.head
      rw [List.getLast?_append_of_ne_nil _ (by simp [cons])] at last
      exact hd.last last

def mantissa (ds : List Char) : List Char :=
  match ds with
  | [] => []
  | [d] => [d]
  | d :: more => d :: '.' :: more

theorem scientific_eq (ds : List Char) (k : Int) :
    scientific ds k =
      mantissa ds ++ 'e' :: (if k < 0 then '-' else '+') :: digits k.natAbs :=
  rfl

theorem exists_mantissa_cons (d : Char) (ds : List Char) :
    ∃ more, mantissa (d :: ds) = d :: more := by
  cases ds with
  | nil => exact ⟨[], rfl⟩
  | cons e ds => exact ⟨'.' :: e :: ds, rfl⟩

theorem mantissa_inj (same : mantissa ds = mantissa es) : ds = es := by
  unfold mantissa at same
  split at same <;> split at same <;> simp_all

theorem mem_mantissa {c : Char} (mem : c ∈ mantissa ds) : c ∈ ds ∨ c = '.' := by
  unfold mantissa at mem
  split at mem
  · exact .inl mem
  · exact .inl mem
  · rw [List.mem_cons, List.mem_cons] at mem
    rw [List.mem_cons, or_assoc, or_comm (a := c ∈ _)]
    exact mem

theorem notMem_mantissa (hd : ∀ c ∈ ds, IsDecimal c) : 'e' ∉ mantissa ds := by
  intro mem
  obtain digit | point := mem_mantissa mem
  · exact absurd (hd _ digit) (by decide)
  · exact absurd point (by decide)

theorem exponent_inj {j k : Int}
    (sameSign : (if j < 0 then '-' else '+') = if k < 0 then '-' else '+')
    (same : digits j.natAbs = digits k.natAbs) : j = k := by
  have size := Text.digits_inj same
  by_cases hj : j < 0 <;> by_cases hk : k < 0 <;> simp [hj, hk] at sameSign <;> omega

theorem exponent_mem_scientific (ds : List Char) (k : Int) : 'e' ∈ scientific ds k :=
  List.mem_append_right _ (List.mem_cons_self ..)

theorem mem_scientific (hd : ∀ c ∈ ds, IsDecimal c) {k : Int} {c : Char}
    (mem : c ∈ scientific ds k) : IsDecimal c ∨ c ∈ ['.', 'e', '-', '+'] := by
  rw [scientific_eq, List.mem_append, List.mem_cons, List.mem_cons] at mem
  obtain digit | rfl | rfl | digit := mem
  · exact (mem_mantissa digit).imp (hd c) (by rintro rfl; decide)
  · exact .inr (by decide)
  · exact .inr (by split <;> decide)
  · exact .inl (Text.isDecimal_of_mem_digits digit)

theorem scientific_inj (hd : ∀ c ∈ ds, IsDecimal c) {j k : Int}
    (same : scientific ds j = scientific es k) : ds = es ∧ j = k := by
  have noExponent : 'e' ∉ (if j < 0 then '-' else '+') :: digits j.natAbs := by
    rw [List.mem_cons]
    rintro (sign | digit)
    · split at sign <;> exact absurd sign (by decide)
    · exact absurd (Text.isDecimal_of_mem_digits digit) (by decide)
  rw [scientific_eq, scientific_eq,
    List.append_cons_inj_of_notMem (notMem_mantissa hd) noExponent] at same
  obtain ⟨sameDigits, -, exponent⟩ := same
  obtain ⟨sign, size⟩ := List.cons.inj exponent
  exact ⟨mantissa_inj sameDigits, exponent_inj sign size⟩

/-- The text without the sign. -/
def unsigned (l : Layout) (x : Binary64) : List Char :=
  if x.units = 0 then ['0', '.', '0']
  else if l.lowest ≤ x.shortest.2 ∧ x.shortest.2 < l.highest then
    positional x.shortest.1 x.shortest.2
  else scientific x.shortest.1 x.shortest.2

variable {l : Layout} {x y : Binary64}

theorem render_eq (l : Layout) (x : Binary64) :
    l.render x = Text.signed x.negative (l.unsigned x) := by
  unfold render unsigned Text.signed
  dsimp only
  by_cases zero : x.units = 0
  · rw [if_pos zero, if_pos zero]
    split <;> rfl
  · rw [if_neg zero, if_neg zero]
    split <;> split <;> rfl

/-- The texts without a sign: the one of zero and those of the shortest digits. -/
theorem unsigned_cases (l : Layout) (x : Binary64) :
    (x.units = 0 ∧ l.unsigned x = ['0', '.', '0']) ∨
    (0 < x.units ∧ l.unsigned x = positional x.shortest.1 x.shortest.2) ∨
    (0 < x.units ∧ l.unsigned x = scientific x.shortest.1 x.shortest.2) := by
  unfold unsigned
  by_cases zero : x.units = 0
  · exact .inl ⟨zero, if_pos zero⟩
  · rw [if_neg zero]
    have pos := Nat.pos_of_ne_zero zero
    split
    · exact .inr (.inl ⟨pos, rfl⟩)
    · exact .inr (.inr ⟨pos, rfl⟩)

theorem positional_ne_scientific (hd : ∀ c ∈ ds, IsDecimal c) (j k : Int) :
    positional ds j ≠ scientific es k := by
  intro same
  have mem : 'e' ∈ positional ds j := same ▸ exponent_mem_scientific es k
  exact (mem_positional hd mem).elim (absurd · (by decide)) (absurd · (by decide))

theorem zero_ne_scientific (k : Int) : ['0', '.', '0'] ≠ scientific es k := by
  intro same
  have mem : 'e' ∈ ['0', '.', '0'] := same ▸ exponent_mem_scientific es k
  exact absurd mem (by decide)

theorem bits_eq_zero (zero : x.units = 0) : x.bits = 0 := by
  have significand : x.significand = 0 := by
    by_contra some
    rw [units, Nat.shiftLeft_eq] at zero
    exact absurd zero (Nat.mul_ne_zero some (Nat.two_pow_pos _).ne')
  unfold Binary64.significand at significand
  split at significand
  · rename_i exponent
    rw [bits, exponent, significand, Nat.zero_mul]
  · exact absurd significand (by simp)

theorem bits_eq_of_unsigned (same : l.unsigned x = l.unsigned y) : x.bits = y.bits := by
  obtain ⟨hx, xText⟩ | ⟨hx, xText⟩ | ⟨hx, xText⟩ := unsigned_cases l x <;>
    obtain ⟨hy, yText⟩ | ⟨hy, yText⟩ | ⟨hy, yText⟩ := unsigned_cases l y <;>
    rw [xText, yText] at same
  · rw [bits_eq_zero hx, bits_eq_zero hy]
  · exact absurd same.symm (positional_ne_zero (isTrimmed_shortest hy) _)
  · exact absurd same (zero_ne_scientific _)
  · exact absurd same (positional_ne_zero (isTrimmed_shortest hx) _)
  · obtain ⟨digits, power⟩ := positional_inj (isTrimmed_shortest hx) (isTrimmed_shortest hy) same
    exact bits_eq_of_shortest hx hy (Prod.ext digits power)
  · exact absurd same (positional_ne_scientific (isTrimmed_shortest hx).isDecimal _ _)
  · exact absurd same.symm (zero_ne_scientific _)
  · exact absurd same.symm (positional_ne_scientific (isTrimmed_shortest hy).isDecimal _ _)
  · obtain ⟨digits, power⟩ := scientific_inj (isTrimmed_shortest hx).isDecimal same
    exact bits_eq_of_shortest hx hy (Prod.ext digits power)

/-- The text has a point or an exponent, which sets it apart from those of whole numbers. -/
theorem exists_mem_unsigned (l : Layout) (x : Binary64) :
    ∃ c ∈ l.unsigned x, c = '.' ∨ c = 'e' := by
  obtain ⟨-, text⟩ | ⟨-, text⟩ | ⟨-, text⟩ := unsigned_cases l x <;> rw [text]
  · exact ⟨'.', by decide, .inl rfl⟩
  · exact ⟨'.', point_mem_positional _ _, .inl rfl⟩
  · exact ⟨'e', exponent_mem_scientific _ _, .inr rfl⟩

theorem mem_unsigned {c : Char} (mem : c ∈ l.unsigned x) :
    IsDecimal c ∨ c ∈ ['.', 'e', '-', '+'] := by
  obtain ⟨-, text⟩ | ⟨pos, text⟩ | ⟨pos, text⟩ := unsigned_cases l x <;> rw [text] at mem
  · rw [List.mem_cons, List.mem_cons, List.mem_singleton] at mem
    obtain rfl | rfl | rfl := mem <;> decide
  · refine (mem_positional (isTrimmed_shortest pos).isDecimal mem).imp_right ?_
    rintro rfl
    decide
  · exact mem_scientific (isTrimmed_shortest pos).isDecimal mem

theorem beginsWithDigit_unsigned (l : Layout) (x : Binary64) :
    Text.BeginsWithDigit (l.unsigned x) := by
  obtain ⟨-, text⟩ | ⟨pos, text⟩ | ⟨pos, text⟩ := unsigned_cases l x <;> rw [text]
  · exact ⟨'0', ['.', '0'], rfl, by decide⟩
  · exact beginsWithDigit_positional (isTrimmed_shortest pos) _
  · obtain ⟨c, cs, cons, -⟩ := (isTrimmed_shortest pos).head
    obtain ⟨more, first⟩ := exists_mantissa_cons c cs
    have digit : IsDecimal c := (isTrimmed_shortest pos).isDecimal c (by simp [cons])
    exact ⟨c, _, by rw [scientific_eq, cons, first, List.cons_append], digit⟩

/-- Two numbers have one text only if they are equal, signs included. -/
theorem render_inj (same : l.render x = l.render y) : x = y := by
  rw [render_eq, render_eq] at same
  obtain ⟨sign, magnitude⟩ :=
    Text.signed_inj (beginsWithDigit_unsigned l x) (beginsWithDigit_unsigned l y) same
  obtain ⟨exponent, fraction⟩ := bits_inj (bits_eq_of_unsigned magnitude)
  cases x
  cases y
  cases sign
  cases exponent
  cases fraction
  rfl

end Layout
end Binary64
end StreamPipelines
