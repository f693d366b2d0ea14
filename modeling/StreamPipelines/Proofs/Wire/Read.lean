import StreamPipelines.Proofs.Json.Structure
import StreamPipelines.Wire.Read

/-!
Reading fields by their schemas. What a reader takes is told by a predicate of the text of the
value and of what it is read as.
-/

namespace StreamPipelines

open Json (Cursor Failure Form IsSpaces IsString IsValue Follows Gives)

/-- The reader takes the values that `P` tells of, with white space before them, and no others. -/
structure Reads {α : Type} (read : Cursor → Except Failure (α × Cursor))
    (P : List Char → α → Prop) : Prop where
  sound : ∀ {c d a}, read c = .ok (a, d) →
    ∃ ws v, IsSpaces ws ∧ P v a ∧ c.rest = ws ++ (v ++ d.rest)
  complete : ∀ {c ws v a rest}, IsSpaces ws → P v a → Follows rest →
    c.rest = ws ++ (v ++ rest) → Gives (read c) a rest

/-- A scalar of the wrong form is read, and then refused all the same. -/
theorem failForm_ne_ok {α : Type} (wanted : Form) (c : Cursor) (a : α) :
    failForm wanted c ≠ .ok a := by
  have refused {β : Type} {x : Except Failure β} {f : β → Except Failure α}
      (never : ∀ b, f b ≠ .ok a) : x.bind f ≠ .ok a := by
    intro h
    obtain ⟨b, -, h⟩ := exists_of_bind_eq_ok h
    exact never b h
  unfold failForm
  split
  · exact nofun
  · split_ifs
    · exact refused fun _ => nofun
    · exact refused fun _ => nofun
    · exact refused fun _ => nofun
    · exact refused fun _ => nofun
    · exact refused fun _ => nofun
    · exact nofun
    · exact nofun
    · exact Cursor.failNext_ne_ok _ _ _

theorem readOpened_sound {α : Type} {x : Char} {wanted : Form} {levels : Nat}
    {content : Nat → Cursor → Except Failure (α × Cursor)} {c d : Cursor} {a : α}
    (h : readOpened x wanted (levels + 1) content c = .ok (a, d)) :
    ∃ rest, c.rest = x :: rest ∧ content levels c.next = .ok (a, d) := by
  unfold readOpened at h
  split at h
  · rename_i opened
    obtain ⟨rest, text⟩ := Json.startsWith_iff.mp opened
    exact ⟨rest, text, h⟩
  · exact absurd h (failForm_ne_ok _ _ _)

theorem readOpened_eq {α : Type} {x : Char} {c : Cursor} {rest : List Char}
    (text : c.rest = x :: rest) (wanted : Form) (levels : Nat)
    (content : Nat → Cursor → Except Failure (α × Cursor)) :
    readOpened x wanted (levels + 1) content c = content levels c.next := by
  rw [readOpened, if_pos (Json.startsWith_iff.mpr ⟨rest, text⟩)]

theorem reads_text : Reads readText IsString where
  sound {c d s} h := by
    obtain ⟨ws, spaces, text⟩ := Json.exists_spaces c
    unfold readText at h
    dsimp only at h
    split at h
    · rename_i quote
      obtain ⟨rest, quote⟩ := Json.startsWith_iff.mp quote
      obtain ⟨v, string, behind⟩ := Json.readString_sound quote h
      exact ⟨ws, v, spaces, string, by rw [text, behind]⟩
    · exact absurd h (failForm_ne_ok _ _ _)
  complete {c ws v s rest} spaces string _ text := by
    have visible := Json.rest_skipSpace_of_value spaces string.isValue text
    have quote : Json.startsWith '"' c.skipSpace = true := by
      obtain ⟨inside⟩ := string
      exact Json.startsWith_iff.mpr ⟨_, visible⟩
    unfold readText
    dsimp only
    rw [if_pos quote]
    exact Json.readString_complete string visible

/-- Null, or a string that stands for a text. -/
inductive IsNullable : List Char → Option String → Prop
  | null : IsNullable ['n', 'u', 'l', 'l'] none
  | text {v : List Char} {s : String} (string : IsString v s) : IsNullable v (some s)

theorem IsNullable.isValue {v : List Char} {text : Option String} (h : IsNullable v text) :
    IsValue v := by
  cases h with
  | null => exact .null
  | text string => exact string.isValue

theorem reads_nullable (levels : Nat) :
    Reads ((Schema.option .text).read levels) IsNullable where
  sound {c d t} h := by
    obtain ⟨ws, spaces, text⟩ := Json.exists_spaces c
    unfold Schema.read readUnlessNull at h
    dsimp only at h
    split at h
    · rename_i null
      obtain ⟨rest, null⟩ := Json.startsWith_iff.mp null
      obtain ⟨e, word, h⟩ := exists_of_bind_eq_ok h
      cases h
      have behind := Json.expectWord_sound word
      rw [Cursor.rest_next, null, List.tail_cons] at behind
      exact ⟨ws, _, spaces, .null, by rw [text, null, behind]; rfl⟩
    · obtain ⟨⟨s, e⟩, read, h⟩ := exists_of_bind_eq_ok h
      cases h
      obtain ⟨ws', v, spaces', string, behind⟩ := reads_text.sound read
      exact ⟨_, v, spaces.append spaces', .text string, by rw [text, behind, List.append_assoc]⟩
  complete {c ws v t rest} spaces nullable follows text := by
    have visible := Json.rest_skipSpace_of_value spaces nullable.isValue text
    unfold Schema.read readUnlessNull
    dsimp only
    cases nullable with
    | null =>
        rw [if_pos (Json.startsWith_iff.mpr ⟨_, visible⟩)]
        have next : c.skipSpace.next.rest = ['u', 'l', 'l'] ++ rest := by
          rw [Cursor.rest_next, visible]
          rfl
        obtain ⟨d, word, behind⟩ := Json.expectWord_complete next
        exact ⟨d, by rw [word]; rfl, behind⟩
    | text string =>
        have notNull : ¬Json.startsWith 'n' c.skipSpace = true := by
          obtain ⟨inside⟩ := string
          rw [Json.startsWith_iff, visible]
          rintro ⟨rest, ⟨⟩⟩
        rw [if_neg notNull]
        obtain ⟨d, read, behind⟩ := reads_text.complete Json.isSpaces_nil string
          follows visible
        exact ⟨d, by unfold Schema.read; rw [read]; rfl, behind⟩

end StreamPipelines
