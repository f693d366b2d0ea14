import Mathlib.Data.List.Induction
import Mathlib.Data.String.Defs
import StreamPipelines.Proofs.Text.Digits

/-!
Digits grouped by thousands. The commas are placed from the left, by counting the digits that are
left, but groups are counted from the right: three more digits at the end are one more group there
and change nothing before them. So a number is grouped as its thousands are, and what remains of it
comes behind them as a group of its own.
-/

namespace StreamPipelines
namespace Text

theorem digitChar_eq (n : Nat) : digitChar n = Nat.digitChar (n % 10) := by
  have all : ∀ d < 10, Char.ofNat (0x30 + d) = Nat.digitChar d := by decide
  exact all (n % 10) (Nat.mod_lt n (by decide))

theorem digits_eq_toDigits (n : Nat) : digits n = Nat.toDigits 10 n := by
  induction n using Nat.strongRecOn with
  | ind n ih =>
      by_cases small : n < 10
      · rw [digits_of_lt small, Nat.toDigits_of_lt_base small, digitChar_eq, Nat.mod_eq_of_lt small]
      · have large : 10 ≤ n := by omega
        rw [digits_of_le large, ih (n / 10) (by omega), digitChar_eq,
          Nat.toDigits_of_base_le (by decide) large]

theorem toList_toString (n : Nat) : (toString n).toList = digits n := by
  rw [Nat.toString_eq_ofList_toDigits, String.toList_ofList, digits_eq_toDigits]

theorem comma_notMem_digits (n : Nat) : ',' ∉ digits n := by
  intro mem
  exact absurd (isDecimal_of_mem_digits mem) (by decide)

/-- Zero alone begins with a zero. -/
theorem head?_digits_eq_zero_iff (n : Nat) : (digits n).head? = some '0' ↔ n = 0 := by
  constructor
  · intro first
    obtain ⟨cs, cons⟩ := List.head?_eq_some_iff.mp first
    apply Nat.eq_zero_of_not_pos
    intro pos
    exact head_digits_ne_zero pos cons rfl
  · rintro rfl
    rw [digits_of_lt (by decide)]
    decide

/-- The last three digits of a number, with zeros for those that are missing. -/
def lastThree (n : Nat) : List Char :=
  [digitChar (n / 100), digitChar (n / 10), digitChar n]

theorem digits_of_thousands {n : Nat} (large : 1000 ≤ n) :
    digits n = digits (n / 1000) ++ lastThree n := by
  have hundreds : n / 10 / 10 / 10 = n / 1000 := by omega
  have tens : n / 10 / 10 = n / 100 := by omega
  rw [digits_of_le (by omega), digits_of_le (n := n / 10) (by omega),
    digits_of_le (n := n / 10 / 10) (by omega), hundreds, tens]
  simp [lastThree]

theorem lastThree_mod (n : Nat) : lastThree (n % 1000) = lastThree n := by
  have hundreds : n % 1000 / 100 % 10 = n / 100 % 10 := by omega
  have tens : n % 1000 / 10 % 10 = n / 10 % 10 := by omega
  have ones : n % 1000 % 10 = n % 10 := by omega
  simp only [lastThree, digitChar, hundreds, tens, ones]

theorem leftpad_digits {n : Nat} (small : n < 1000) :
    (digits n).leftpad 3 '0' = lastThree n := by
  have zero : digitChar 0 = '0' := by decide
  by_cases below : n < 10
  · have hundreds : n / 100 = 0 := by omega
    have tens : n / 10 = 0 := by omega
    rw [digits_of_lt below, lastThree, hundreds, tens, zero]
    rfl
  rw [digits_of_le (by omega)]
  by_cases below : n < 100
  · have hundreds : n / 100 = 0 := by omega
    rw [digits_of_lt (by omega), lastThree, hundreds, zero]
    rfl
  · have twice : n / 10 / 10 = n / 100 := by omega
    rw [digits_of_le (by omega), digits_of_lt (by omega), twice]
    rfl

/-- A first group of one to three characters, and groups of three behind it. -/
def AreThousands : List (List Char) → Prop
  | [] => False
  | first :: rest => (0 < first.length ∧ first.length ≤ 3) ∧ ∀ g ∈ rest, g.length = 3

/-- Without its commas `cs` is `ds`, and the commas part groups by thousands. -/
structure IsGrouped (ds cs : List Char) : Prop where
  digits : cs.filter (· ≠ ',') = ds
  groups : AreThousands (cs.splitOn ',')

theorem AreThousands.append {groups : List (List Char)} {g : List Char}
    (h : AreThousands groups) (three : g.length = 3) : AreThousands (groups ++ [g]) := by
  cases groups with
  | nil => exact absurd h id
  | cons first rest =>
      refine ⟨h.1, ?_⟩
      intro d mem
      obtain mem | mem := List.mem_append.mp mem
      · exact h.2 d mem
      · rw [List.mem_singleton.mp mem]
        exact three

theorem flatten_splitOn (cs : List Char) : (cs.splitOn ',').flatten = cs.filter (· ≠ ',') := by
  rw [List.splitOn_eq_splitOnP]
  induction cs with
  | nil => rfl
  | cons c cs ih =>
      rw [List.splitOnP_cons_eq_if_modifyHead]
      by_cases comma : c = ','
      · simp [comma, ih]
      · cases parts : cs.splitOnP (· == ',') with
        | nil => exact absurd parts (List.splitOnP_ne_nil _ cs)
        | cons part parts' =>
            rw [parts, List.flatten_cons] at ih
            simpa [comma] using ih

/-- Every text with characters is a row of groups. -/
theorem exists_groups {ds : List Char} (nonempty : ds ≠ []) :
    ∃ groups, AreThousands groups ∧ groups.flatten = ds := by
  induction length : ds.length using Nat.strongRecOn generalizing ds with
  | ind n ih =>
      by_cases few : ds.length ≤ 3
      · exact ⟨[ds], ⟨⟨List.length_pos_iff.mpr nonempty, few⟩, by simp⟩, by simp⟩
      · have front : (ds.take (ds.length - 3)).length = ds.length - 3 := by
          rw [List.length_take]
          omega
        have back : (ds.drop (ds.length - 3)).length = 3 := by
          rw [List.length_drop]
          omega
        obtain ⟨groups, thousands, flat⟩ :=
          ih (ds.length - 3) (by omega) (List.length_pos_iff.mp (by omega)) front
        refine ⟨groups ++ [ds.drop (ds.length - 3)], thousands.append back, ?_⟩
        rw [List.flatten_append, flat, List.flatten_singleton, List.take_append_drop]

theorem commaEachThree_of_few {ds : List Char} (few : ds.length ≤ 3) : commaEachThree ds = ds := by
  match ds, few with
  | [], _ | [_], _ | [_, _], _ | [_, _, _], _ => rfl

/-- Three more digits at the end do not move the commas before them. -/
theorem commaEachThree_append {ds g : List Char} (nonempty : ds ≠ []) (three : g.length = 3) :
    commaEachThree (ds ++ g) = commaEachThree ds ++ ',' :: g := by
  induction ds with
  | nil => exact absurd rfl nonempty
  | cons c ds ih =>
      cases ds with
      | nil =>
          match g, three with
          | [_, _, _], _ => simp [commaEachThree]
      | cons d ds =>
          have left : (ds.length + g.length + 1) % 3 = (ds.length + 1) % 3 := by omega
          have rest := ih (List.cons_ne_nil d ds)
          simp only [List.cons_append] at rest
          simp only [List.cons_append, commaEachThree, List.length_append, left, rest]
          split <;> rfl

theorem intercalate_concat (first g : List Char) (rest : List (List Char)) :
    [','].intercalate (first :: (rest ++ [g])) = [','].intercalate (first :: rest) ++ ',' :: g := by
  induction rest generalizing first with
  | nil => simp [List.intercalate_cons_cons]
  | cons d rest ih =>
      rw [List.cons_append, List.intercalate_cons_cons, ih, List.intercalate_cons_cons]
      simp

theorem intercalate_eq {groups : List (List Char)} (h : AreThousands groups) :
    [','].intercalate groups = commaEachThree groups.flatten := by
  cases groups with
  | nil => exact absurd h id
  | cons first rest =>
      obtain ⟨⟨pos, few⟩, threes⟩ := h
      induction rest using List.reverseRecOn with
      | nil => simp [commaEachThree_of_few few]
      | append_singleton rest g ih =>
          have three : g.length = 3 := threes g (by simp)
          have front := ih fun d mem => threes d (List.mem_append_left _ mem)
          have nonempty : (first :: rest).flatten ≠ [] := by
            rw [List.flatten_cons]
            exact List.append_ne_nil_of_left_ne_nil (List.length_pos_iff.mp pos) _
          rw [intercalate_concat, front, ← List.cons_append, List.flatten_append,
            List.flatten_singleton, commaEachThree_append nonempty three]

/-- There is one way to group, and it is this one. -/
theorem isGrouped_iff {ds cs : List Char} (nonempty : ds ≠ []) (clean : ',' ∉ ds) :
    IsGrouped ds cs ↔ cs = commaEachThree ds := by
  constructor
  · intro h
    rw [← h.digits, ← flatten_splitOn, ← intercalate_eq h.groups, List.intercalate_splitOn]
  · rintro rfl
    obtain ⟨groups, thousands, rfl⟩ := exists_groups nonempty
    have parted : (commaEachThree groups.flatten).splitOn ',' = groups := by
      rw [← intercalate_eq thousands]
      refine List.splitOn_intercalate ',' ?_ ?_
      · intro g mem comma
        exact clean (List.mem_flatten.mpr ⟨g, mem, comma⟩)
      · rintro rfl
        exact thousands
    exact ⟨by rw [← flatten_splitOn, parted], by rw [parted]; exact thousands⟩

/-- The difference, unless it would be negative. -/
def minus? (m n : Nat) : Option Nat :=
  if n ≤ m then some (m - n) else none

/-- Puts the digit at the place `d.2` of `length` digits behind the text `cs`, with a comma between
them if a multiple of three digits is left there, but none before the first digit. -/
def placeDigit? (length : Nat) (cs : List Char) (d : Char × Nat) : Option (List Char) :=
  if d.2 = 0 then some (cs ++ [d.1])
  else (minus? length d.2).map fun left =>
    if left % 3 = 0 then cs ++ [',', d.1] else cs ++ [d.1]

/-- Groups the digits one after the other, each by its place; fails if a place lies behind them. -/
def groupByPlace? (ds : List Char) : Option (List Char) :=
  ds.zipIdx.foldlM (placeDigit? ds.length) []

/-- What stands before a digit has no part in where the next commas go. -/
theorem foldlM_placeDigit? (c : Char) (ds cs : List Char) (k : Nat) :
    (ds.zipIdx (k + 1)).foldlM (placeDigit? (k + 1 + ds.length)) (cs ++ [c]) =
      some (cs ++ commaEachThree (c :: ds)) := by
  induction ds generalizing c cs k with
  | nil => rfl
  | cons d ds ih =>
      have left : minus? (k + 1 + (ds.length + 1)) (k + 1) = some (ds.length + 1) := by
        rw [minus?, if_pos (by omega), Nat.add_sub_cancel_left]
      have placed : placeDigit? (k + 1 + (ds.length + 1)) (cs ++ [c]) (d, k + 1) =
          some (if (ds.length + 1) % 3 = 0 then cs ++ [c] ++ [',', d] else cs ++ [c] ++ [d]) := by
        rw [placeDigit?, if_neg (Nat.succ_ne_zero k), left]
        rfl
      have next : k + 1 + (ds.length + 1) = k + 1 + 1 + ds.length := by omega
      rw [List.zipIdx_cons, List.foldlM_cons, List.length_cons, placed, next, commaEachThree]
      split
      · have rest := ih d (cs ++ [c, ',']) (k + 1)
        simpa using rest
      · have rest := ih d (cs ++ [c]) (k + 1)
        simpa using rest

theorem groupByPlace?_eq (ds : List Char) : groupByPlace? ds = some (commaEachThree ds) := by
  cases ds with
  | nil => rfl
  | cons c ds =>
      rw [groupByPlace?, List.zipIdx_cons, List.foldlM_cons, List.length_cons, Nat.add_comm]
      exact foldlM_placeDigit? c ds [] 0

theorem toList_grouped (n : UInt64) : (grouped n).toList = commaEachThree (digits n.toNat) := by
  rw [grouped, String.toList_ofList]

theorem grouped_of_lt {n : UInt64} (small : n < 1000) : grouped n = toString n.toNat := by
  have few : (digits n.toNat).length ≤ 3 := by
    have padded := congrArg List.length (leftpad_digits (UInt64.lt_iff_toNat_lt.mp small))
    rw [List.length_leftpad] at padded
    calc
      (digits n.toNat).length ≤ max 3 (digits n.toNat).length := Nat.le_max_right _ _
      _ = 3 := padded
  rw [← String.toList_inj, toList_grouped, commaEachThree_of_few few, toList_toString]

theorem grouped_of_le {n : UInt64} (large : 1000 ≤ n) :
    grouped n = grouped (n / 1000) ++ "," ++ (toString (n % 1000).toNat).leftpad 3 '0' := by
  have rest : ((toString (n % 1000).toNat).leftpad 3 '0').toList = lastThree n.toNat := by
    have padded (t : String) : (t.leftpad 3 '0').toList = t.toList.leftpad 3 '0' :=
      String.toList_ofList
    rw [padded, toList_toString, UInt64.toNat_mod]
    exact (leftpad_digits (Nat.mod_lt _ (by decide))).trans (lastThree_mod _)
  rw [← String.toList_inj, toList_grouped, digits_of_thousands (UInt64.le_iff_toNat_le.mp large),
    commaEachThree_append (digits_ne_nil _) rfl, String.toList_append, String.toList_append, rest,
    toList_grouped, UInt64.toNat_div, List.append_assoc]
  rfl

/-- The grouped text of a number is the one text which, without its commas, is the decimal text of
the number, and in which the commas part groups by thousands. It is the grouped text of the
thousands with what remains behind it, and the one that placing commas from the left comes to, where
no more digits are ever taken off than there are. -/
theorem isGrouped_grouped (n : UInt64) :
    (∀ s : String, IsGrouped (toString n.toNat).toList s.toList ↔ s = grouped n) ∧
    ((toString n.toNat).toList.head? = some '0' ↔ n = 0) ∧
    grouped n =
      (if n < 1000 then toString n.toNat
      else grouped (n / 1000) ++ "," ++ (toString (n % 1000).toNat).leftpad 3 '0') ∧
    groupByPlace? (toString n.toNat).toList = some (grouped n).toList := by
  refine ⟨?_, ?_, ?_, ?_⟩
  · intro s
    rw [toList_toString, isGrouped_iff (digits_ne_nil _) (comma_notMem_digits _), ← toList_grouped,
      String.toList_inj]
  · rw [toList_toString, head?_digits_eq_zero_iff, ← UInt64.toNat_inj]
    rfl
  · split
    · rename_i small
      exact grouped_of_lt small
    · rename_i large
      exact grouped_of_le (UInt64.not_lt.mp large)
  · rw [toList_toString, groupByPlace?_eq, toList_grouped]

example : grouped 18446744073709551615 = "18,446,744,073,709,551,615" := by decide +kernel

end Text
end StreamPipelines
