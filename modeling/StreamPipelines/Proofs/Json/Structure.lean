import StreamPipelines.Proofs.Json.Skip

/-!
The punctuation of arrays and objects, where the items and members are read by readers of their
own: what stands before the next item or key, the closing mark, and the end of the text.
-/

namespace StreamPipelines
namespace Json

theorem IsLead.append {first : Bool} {l ws : List Char} (lead : IsLead first l)
    (spaces : IsSpaces ws) : IsLead first (l ++ ws) := by
  cases lead with
  | first before => exact .first (before.append spaces)
  | comma before behind =>
      rw [List.append_assoc, List.cons_append]
      exact .comma before (behind.append spaces)

/-- White space cannot stand before a mark and begin with it. -/
theorem eq_nil_of_spaces {ws rest rest' : List Char} {x : Char} (spaces : IsSpaces ws)
    (visible : Cursor.isSpace x = false) (same : x :: rest = ws ++ x :: rest') :
    ws = [] ∧ rest = rest' := by
  cases ws with
  | nil => exact ⟨rfl, (List.cons.inj same).2⟩
  | cons w ws =>
      have space := spaces w List.mem_cons_self
      rw [← (List.cons.inj same).1, visible] at space
      cases space

theorem nextItem_sound {first : Bool} {c d : Cursor} {found : Option Cursor}
    (h : nextItem first c = .ok (found, d)) :
    (found = none ∧ ∃ ws rest, IsSpaces ws ∧ c.rest = ws ++ ']' :: rest ∧ d.rest = ']' :: rest) ∨
      ∃ e l, found = some e ∧ IsLead first l ∧ c.rest = l ++ e.rest := by
  obtain ⟨ws, spaces, text⟩ := exists_spaces c
  rw [nextItem] at h
  split at h
  · cases h
  rename_i x rest visible
  split_ifs at h with bracket isFirst comma
  · cases h
    exact .inl ⟨rfl, ws, rest, spaces, by rw [text, visible, bracket], by rw [visible, bracket]⟩
  · cases h
    cases isFirst
    exact .inr ⟨_, ws, rfl, .first spaces, text⟩
  · obtain rfl : first = false := by simpa using isFirst
    obtain ⟨ws', spaces', behind⟩ := exists_spaces c.skipSpace.next
    rw [Cursor.rest_next, visible, List.tail_cons] at behind
    dsimp only at h
    split at h
    · cases h
    split_ifs at h
    · exact absurd h (Cursor.failNext_ne_ok _ _ _)
    · cases h
      exact .inr ⟨_, _, rfl, .comma spaces spaces', by rw [text, visible, comma, behind]; simp⟩
  · exact absurd h (Cursor.failNext_ne_ok _ _ _)

theorem nextItem_close (first : Bool) {c : Cursor} {ws rest : List Char} (spaces : IsSpaces ws)
    (text : c.rest = ws ++ ']' :: rest) : Gives (nextItem first c) none (']' :: rest) := by
  have visible : c.skipSpace.rest = ']' :: rest :=
    rest_skipSpace_of spaces text (by rintro x ⟨⟩; decide)
  exact ⟨c.skipSpace, by simp only [nextItem, visible, if_true], visible⟩

theorem nextItem_item {first : Bool} {c : Cursor} {l v rest : List Char} (lead : IsLead first l)
    (value : IsValue v) (text : c.rest = l ++ (v ++ rest)) :
    ∃ e, nextItem first c = .ok (some e, e) ∧ e.rest = v ++ rest := by
  cases lead with
  | first spaces =>
      have visible := rest_skipSpace_of_value spaces value text
      obtain ⟨x, others, rfl, begins⟩ := value.exists_cons
      refine ⟨c.skipSpace, ?_, visible⟩
      simp only [nextItem, visible, List.cons_append, begins.2, if_false, if_true]
  | @comma ws ws' before behind =>
      rw [List.append_assoc, List.cons_append] at text
      have comma : c.skipSpace.rest = ',' :: (ws' ++ (v ++ rest)) :=
        rest_skipSpace_of before text (by rintro x ⟨⟩; decide)
      have visible : c.skipSpace.next.skipSpace.rest = v ++ rest :=
        rest_skipSpace_of_value behind value (by rw [Cursor.rest_next, comma, List.tail_cons])
      obtain ⟨x, others, rfl, begins⟩ := value.exists_cons
      refine ⟨c.skipSpace.next.skipSpace, ?_, visible⟩
      simp only [nextItem, comma, visible, List.cons_append, begins.2, Char.reduceEq,
        Bool.false_eq_true, if_false, if_true]

theorem nextKey_sound {first : Bool} {c d : Cursor} {found : Option Cursor}
    (h : nextKey first c = .ok (found, d)) :
    (found = none ∧ ∃ ws rest, IsSpaces ws ∧ c.rest = ws ++ '}' :: rest ∧ d.rest = '}' :: rest) ∨
      ∃ e l rest, found = some e ∧ IsLead first l ∧ c.rest = l ++ e.rest ∧
        e.rest = '"' :: rest := by
  obtain ⟨ws, spaces, text⟩ := exists_spaces c
  rw [nextKey] at h
  split at h
  · cases h
  rename_i x rest visible
  split_ifs at h with brace isFirst quote comma
  · cases h
    exact .inl ⟨rfl, ws, rest, spaces, by rw [text, visible, brace], by rw [visible, brace]⟩
  · cases h
    cases isFirst
    exact .inr ⟨_, ws, rest, rfl, .first spaces, text, by rw [visible, quote]⟩
  · exact absurd h (Cursor.failNext_ne_ok _ _ _)
  · obtain rfl : first = false := by simpa using isFirst
    obtain ⟨ws', spaces', behind⟩ := exists_spaces c.skipSpace.next
    rw [Cursor.rest_next, visible, List.tail_cons] at behind
    dsimp only at h
    split at h
    · cases h
    rename_i y others next
    split_ifs at h with quote
    · cases h
      exact .inr ⟨_, _, others, rfl, .comma spaces spaces',
        by rw [text, visible, comma, behind]; simp, by rw [next, quote]⟩
    · exact absurd h (Cursor.failNext_ne_ok _ _ _)
    · exact absurd h (Cursor.failNext_ne_ok _ _ _)
  · exact absurd h (Cursor.failNext_ne_ok _ _ _)

theorem nextKey_close (first : Bool) {c : Cursor} {ws rest : List Char} (spaces : IsSpaces ws)
    (text : c.rest = ws ++ '}' :: rest) : Gives (nextKey first c) none ('}' :: rest) := by
  have visible : c.skipSpace.rest = '}' :: rest :=
    rest_skipSpace_of spaces text (by rintro x ⟨⟩; decide)
  exact ⟨c.skipSpace, by simp only [nextKey, visible, if_true], visible⟩

theorem nextKey_key {first : Bool} {c : Cursor} {l rest : List Char} (lead : IsLead first l)
    (text : c.rest = l ++ '"' :: rest) :
    ∃ e, nextKey first c = .ok (some e, e) ∧ e.rest = '"' :: rest := by
  cases lead with
  | first spaces =>
      have visible : c.skipSpace.rest = '"' :: rest :=
        rest_skipSpace_of spaces text (by rintro x ⟨⟩; decide)
      refine ⟨c.skipSpace, ?_, visible⟩
      simp only [nextKey, visible, Char.reduceEq, if_false, if_true]
  | @comma ws ws' before behind =>
      rw [List.append_assoc, List.cons_append] at text
      have comma : c.skipSpace.rest = ',' :: (ws' ++ '"' :: rest) :=
        rest_skipSpace_of before text (by rintro x ⟨⟩; decide)
      have visible : c.skipSpace.next.skipSpace.rest = '"' :: rest :=
        rest_skipSpace_of behind (by rw [Cursor.rest_next, comma, List.tail_cons])
          (by rintro x ⟨⟩; decide)
      refine ⟨c.skipSpace.next.skipSpace, ?_, visible⟩
      simp only [nextKey, comma, visible, Char.reduceEq, Bool.false_eq_true, if_false, if_true]

theorem closeList_sound {c d : Cursor} (h : closeList c = (d, none)) :
    ∃ ws, IsSpaces ws ∧ c.rest = ws ++ ']' :: d.rest := by
  obtain ⟨ws, spaces, text⟩ := exists_spaces c
  refine ⟨ws, spaces, ?_⟩
  rw [closeList] at h
  split at h
  · cases h
  rename_i x rest visible
  split_ifs at h with bracket
  · cases h
    rw [text, Cursor.rest_next, visible, bracket, List.tail_cons]
  · cases h
  · cases h

theorem closeList_complete {c : Cursor} {ws rest : List Char} (spaces : IsSpaces ws)
    (text : c.rest = ws ++ ']' :: rest) : ∃ d, closeList c = (d, none) ∧ d.rest = rest := by
  have visible : c.skipSpace.rest = ']' :: rest :=
    rest_skipSpace_of spaces text (by rintro x ⟨⟩; decide)
  refine ⟨c.skipSpace.next, by simp only [closeList, visible, if_true], ?_⟩
  rw [Cursor.rest_next, visible, List.tail_cons]

theorem closeObject_sound {c d : Cursor} (h : closeObject c = (d, none)) :
    ∃ ws, IsSpaces ws ∧ c.rest = ws ++ '}' :: d.rest := by
  obtain ⟨ws, spaces, text⟩ := exists_spaces c
  refine ⟨ws, spaces, ?_⟩
  rw [closeObject] at h
  split at h
  · cases h
  rename_i x rest visible
  split_ifs at h with brace
  · cases h
    rw [text, Cursor.rest_next, visible, brace, List.tail_cons]
  · cases h
  · cases h

theorem closeObject_complete {c : Cursor} {ws rest : List Char} (spaces : IsSpaces ws)
    (text : c.rest = ws ++ '}' :: rest) : ∃ d, closeObject c = (d, none) ∧ d.rest = rest := by
  have visible : c.skipSpace.rest = '}' :: rest :=
    rest_skipSpace_of spaces text (by rintro x ⟨⟩; decide)
  refine ⟨c.skipSpace.next, by simp only [closeObject, visible, if_true], ?_⟩
  rw [Cursor.rest_next, visible, List.tail_cons]

/-- A content without mismatch, and the bracket behind it. -/
theorem close_eq_ok_iff {α : Type} {content : Except Mismatch α}
    {closing : Cursor × Option Malformed} {a : α} {d : Cursor} :
    close content closing = .ok (a, d) ↔ content = .ok a ∧ closing = (d, none) := by
  obtain ⟨c, fault⟩ := closing
  cases content with
  | error cause => simp [close, Cursor.mismatch]
  | ok b =>
      cases fault with
      | none => simp [close]
      | some cause =>
          simp only [close, Prod.mk.injEq, reduceCtorEq, and_false, iff_false]
          exact Cursor.failNext_ne_ok _ _ _

theorem finish_eq_ok_iff {α : Type} {a b : α} {c : Cursor} :
    finish (a, c) = .ok b ↔ a = b ∧ IsSpaces c.rest := by
  have atEnd : c.skipSpace.rest = [] ↔ IsSpaces c.rest := by
    rw [c.rest_skipSpace, List.dropWhile_eq_nil_iff, IsSpaces]
  simp only [finish]
  split
  · rename_i empty
    simp [← atEnd, List.isEmpty_iff.mp empty]
  · rename_i more
    refine ⟨fun h => absurd h (Cursor.failNext_ne_ok _ _ _), fun ⟨_, spaces⟩ => ?_⟩
    rw [← atEnd, ← List.isEmpty_iff] at spaces
    exact absurd spaces more

end Json
end StreamPipelines
