import Mathlib.Data.List.TakeWhile
import StreamPipelines.Text.Blank

/-!
Trimming: what stays of a text when the characters of a class are taken from both its ends. There is
just one such rest, the one that begins and ends with a character of another kind.
-/

namespace StreamPipelines

/-- The characters without those of the class at both ends. -/
structure IsTrimmed (p : Char → Bool) (cs kept : List Char) : Prop where
  parts : ∃ front back, cs = front ++ (kept ++ back) ∧ (∀ c ∈ front, p c = true) ∧
    ∀ c ∈ back, p c = true
  first : ∀ c ∈ kept.head?, p c = false
  last : ∀ c ∈ kept.getLast?, p c = false

theorem head?_dropWhile (p : Char → Bool) (cs : List Char) :
    ∀ c ∈ (cs.dropWhile p).head?, p c = false := by
  intro c first
  have stops := List.head?_dropWhile_not p cs
  rw [first] at stops
  exact stops

theorem isTrimmed_stripChars (p : Char → Bool) (cs : List Char) :
    IsTrimmed p cs (Text.stripChars p cs) := by
  have back : cs.dropWhile p =
      Text.stripChars p cs ++ ((cs.dropWhile p).reverse.takeWhile p).reverse := by
    rw [Text.stripChars, ← List.reverse_append, List.takeWhile_append_dropWhile,
      List.reverse_reverse]
  refine ⟨⟨cs.takeWhile p, ((cs.dropWhile p).reverse.takeWhile p).reverse, ?_, ?_, ?_⟩, ?_, ?_⟩
  · rw [← back, List.takeWhile_append_dropWhile]
  · exact fun c mem => List.mem_takeWhile_imp mem
  · exact fun c mem => List.mem_takeWhile_imp (List.mem_reverse.mp mem)
  · intro c first
    refine head?_dropWhile p cs c ?_
    rw [back, List.head?_append, Option.mem_def.mp first]
    rfl
  · intro c last
    rw [Text.stripChars, List.getLast?_reverse] at last
    exact head?_dropWhile p _ c last

theorem dropWhile_append_eq {p : Char → Bool} {front : List Char} (cs : List Char)
    (all : ∀ c ∈ front, p c = true) (first : ∀ c ∈ cs.head?, p c = false) :
    (front ++ cs).dropWhile p = cs := by
  rw [List.dropWhile_append_of_pos all]
  cases cs with
  | nil => rfl
  | cons c cs => exact List.dropWhile_cons_of_neg (by simp [first c rfl])

theorem IsTrimmed.eq_stripChars {p : Char → Bool} {cs kept : List Char}
    (h : IsTrimmed p cs kept) : kept = Text.stripChars p cs := by
  obtain ⟨⟨front, back, rfl, before, behind⟩, first, last⟩ := h
  cases kept with
  | nil =>
      have blank : ∀ c ∈ front ++ back, p c = true := by
        simpa [or_imp, forall_and] using ⟨before, behind⟩
      have none := dropWhile_append_eq [] blank nofun
      rw [List.append_nil] at none
      rw [List.nil_append, Text.stripChars, none]
      rfl
  | cons c kept =>
      have behind : ∀ d ∈ back.reverse, p d = true := by
        simpa using behind
      have last : ∀ d ∈ (c :: kept).reverse.head?, p d = false := by
        rw [List.head?_reverse]
        exact last
      rw [Text.stripChars, dropWhile_append_eq (c :: kept ++ back) before first,
        List.reverse_append, dropWhile_append_eq (c :: kept).reverse behind last,
        List.reverse_reverse]

/-- What is left of a text has nothing to be taken from its ends. -/
theorem IsTrimmed.self {p : Char → Bool} {cs kept : List Char} (h : IsTrimmed p cs kept) :
    IsTrimmed p kept kept :=
  ⟨⟨[], [], by simp, nofun, nofun⟩, h.first, h.last⟩

end StreamPipelines
