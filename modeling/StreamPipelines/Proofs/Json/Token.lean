import Mathlib.Data.List.TakeWhile
import StreamPipelines.Json.Structure
import StreamPipelines.Proofs.Json.Grammar
import StreamPipelines.Proofs.Result

/-!
The parts of a JSON text that hold no other values. Each reader of one stops behind a part that is
as the grammar says, and it takes every such part, whatever follows; behind a number something has
to follow that does not belong to it.
-/

namespace StreamPipelines
namespace Json

open Text (IsDecimal)

/-- The reader succeeds, and leaves this much of the text. -/
def Leaves {ε : Type} (result : Except ε Cursor) (rest : List Char) : Prop :=
  ∃ c, result = .ok c ∧ c.rest = rest

/-- The reader succeeds with the value `a`, and leaves this much of the text. -/
def Gives {ε α : Type} (result : Except ε (α × Cursor)) (a : α) (rest : List Char) : Prop :=
  ∃ c, result = .ok (a, c) ∧ c.rest = rest

/-- What may follow a number. -/
def Follows (rest : List Char) : Prop :=
  ∀ c ∈ rest.head?, ¬IsDecimal c ∧ c ≠ '.' ∧ c ≠ 'e' ∧ c ≠ 'E'

@[simp] theorem Cursor.rest_next (c : Cursor) : c.next.rest = c.rest.tail := by
  unfold next
  cases h : c.rest with
  | nil => rw [h]; rfl
  | cons x rest => rfl

theorem Cursor.rest_skipSpace (c : Cursor) : c.skipSpace.rest = c.rest.dropWhile isSpace := by
  have from_ (cs : List Char) (p : Position) :
      (skipSpaceFrom cs p).rest = cs.dropWhile isSpace := by
    induction cs generalizing p with
    | nil => rfl
    | cons x cs ih =>
        rw [skipSpaceFrom, List.dropWhile_cons]
        split
        · exact ih _
        · rfl
  exact from_ c.rest c.position

theorem exists_spaces (c : Cursor) :
    ∃ ws, IsSpaces ws ∧ c.rest = ws ++ c.skipSpace.rest := by
  refine ⟨c.rest.takeWhile Cursor.isSpace, fun x hx => List.mem_takeWhile_imp hx, ?_⟩
  rw [c.rest_skipSpace, List.takeWhile_append_dropWhile]

theorem rest_skipSpace_of {c : Cursor} {ws rest : List Char} (spaces : IsSpaces ws)
    (h : c.rest = ws ++ rest) (visible : ∀ x ∈ rest.head?, Cursor.isSpace x = false) :
    c.skipSpace.rest = rest := by
  rw [c.rest_skipSpace, h, List.dropWhile_append_of_pos spaces]
  cases rest with
  | nil => rfl
  | cons x rest => rw [List.dropWhile_cons_of_neg (by simp [visible x rfl])]

theorem startsWith_iff {x : Char} {c : Cursor} :
    startsWith x c = true ↔ ∃ rest, c.rest = x :: rest := by
  unfold startsWith
  cases c.rest with
  | nil => simp
  | cons y rest => simp [eq_comm]

theorem startsWithDigit_iff {c : Cursor} :
    startsWithDigit c = true ↔ ∃ d rest, c.rest = d :: rest ∧ IsDecimal d := by
  unfold startsWithDigit
  cases c.rest with
  | nil => simp
  | cons y rest => simp [Text.digitValue?, IsDecimal]

theorem Cursor.failNext_ne_ok {α : Type} (c : Cursor) (cause : Malformed) (a : α) :
    c.failNext cause ≠ .ok a := by
  unfold failNext
  split <;> exact nofun

theorem mem_shortEscapes_iff {x y : Char} :
    (x, y) ∈ shortEscapes ↔ simpleEscape? x = some y := by
  constructor
  · intro mem
    have all : ∀ e ∈ shortEscapes, simpleEscape? e.1 = some e.2 := by decide
    exact all _ mem
  · intro escape
    unfold simpleEscape? at escape
    split_ifs at escape
    all_goals
      cases escape
      subst x
      decide

theorem hexFailure_ne_ok {α : Type} (rest : List Char) (p : Position) (a : α) :
    hexFailure rest p ≠ .ok a := by
  unfold hexFailure
  split <;> exact nofun

theorem skipStringFrom_sound {cs : List Char} {p : Position} {c : Cursor}
    (h : skipStringFrom cs p = .ok c) : ∃ v, IsInside v ∧ cs = v ++ c.rest := by
  fun_induction skipStringFrom cs p with
  | case1 | case3 | case7 | case9 => cases h
  | case4 | case6 => exact absurd h (hexFailure_ne_ok _ _ _)
  | case2 rest =>
      cases h
      exact ⟨['"'], .close, rfl⟩
  | case5 p start x y z w more n digits ih =>
      obtain ⟨v, inside, rfl⟩ := ih h
      exact ⟨_, .unit digits inside, rfl⟩
  | case8 p x rest notUnit y escape ih =>
      obtain ⟨v, inside, rfl⟩ := ih h
      exact ⟨_, .short (mem_shortEscapes_iff.mpr escape) inside, rfl⟩
  | case10 x rest p noQuote noSlash visible ih =>
      obtain ⟨v, inside, rfl⟩ := ih h
      exact ⟨_, .plain ⟨noQuote, noSlash, Nat.le_of_not_lt visible⟩ inside, rfl⟩

theorem short_ne_unit {x y : Char} (letter : (x, y) ∈ shortEscapes) : x ≠ 'u' := by
  have all : ∀ e ∈ shortEscapes, e.1 ≠ 'u' := by decide
  exact all _ letter

theorem skipStringFrom_complete {v : List Char} (inside : IsInside v) (rest : List Char)
    (p : Position) : Leaves (skipStringFrom (v ++ rest) p) rest := by
  induction inside generalizing p with
  | close => exact ⟨_, rfl, rfl⟩
  | plain plain _ ih =>
      rw [List.cons_append, skipStringFrom, if_neg (Nat.not_lt.mpr plain.2.2)]
      · exact ih _
      · exact plain.1
      · exact plain.2.1
  | short letter _ ih =>
      rw [List.cons_append, List.cons_append, skipStringFrom]
      · simp only [mem_shortEscapes_iff.mp letter]
        exact ih _
      · exact short_ne_unit letter
  | unit digits _ ih =>
      simp only [List.cons_append]
      rw [skipStringFrom]
      simp only [digits]
      exact ih _

theorem skipString_sound {c d : Cursor} {rest : List Char} (quote : c.rest = '"' :: rest)
    (h : skipString c = .ok d) : ∃ v, IsInside v ∧ c.rest = '"' :: (v ++ d.rest) := by
  obtain ⟨v, inside, text⟩ := skipStringFrom_sound h
  rw [Cursor.rest_next, quote, List.tail_cons] at text
  exact ⟨v, inside, by rw [quote, text]⟩

theorem skipString_complete {c : Cursor} {v rest : List Char} (inside : IsInside v)
    (text : c.rest = '"' :: (v ++ rest)) : Leaves (skipString c) rest := by
  rw [skipString, Cursor.rest_next, text]
  exact skipStringFrom_complete inside rest _

theorem pairFailure_ne_ok {α : Type} (rest : List Char) (p : Position) (a : α) :
    pairFailure rest p ≠ .ok a := by
  unfold pairFailure
  split
  · exact hexFailure_ne_ok _ _ _
  all_goals exact nofun

theorem readStringFrom_sound {cs : List Char} {p : Position} {read : List Char} {s : String}
    {c : Cursor} (h : readStringFrom cs p read = .ok (s, c)) :
    ∃ v text, IsInsideOf v text ∧ cs = v ++ c.rest ∧ s = String.ofList (read.reverse ++ text) := by
  fun_induction readStringFrom cs p read with
  | case1 | case3 | case5 | case8 | case12 | case14 => cases h
  | case4 | case11 => exact absurd h (hexFailure_ne_ok _ _ _)
  | case6 | case9 => exact absurd h (pairFailure_ne_ok _ _ _)
  | case2 rest =>
      cases h
      exact ⟨['"'], [], .close, rfl, by rw [List.append_nil]⟩
  | case7 p read start x y z w n digits here notLow high x' y' z' w' beyond m others there low ih =>
      obtain ⟨v, text, inside, rfl, rfl⟩ := ih h
      exact ⟨_, _, .pair digits high others low inside, rfl, by simp⟩
  | case10 p read start x y z w more n digits here notLow notHigh ih =>
      obtain ⟨v, text, inside, rfl, rfl⟩ := ih h
      exact ⟨_, _, .unit digits (by simpa using notHigh) (by simpa using notLow) inside, rfl,
        by simp⟩
  | case13 p read x rest notUnit y escape ih =>
      obtain ⟨v, text, inside, rfl, rfl⟩ := ih h
      exact ⟨_, _, .short (mem_shortEscapes_iff.mpr escape) inside, rfl, by simp⟩
  | case15 x rest p read noQuote noSlash visible ih =>
      obtain ⟨v, text, inside, rfl, rfl⟩ := ih h
      exact ⟨_, _, .plain ⟨noQuote, noSlash, Nat.le_of_not_lt visible⟩ inside, rfl, by simp⟩

theorem readStringFrom_complete {v text : List Char} (inside : IsInsideOf v text)
    (rest : List Char) (p : Position) (read : List Char) :
    Gives (readStringFrom (v ++ rest) p read) (String.ofList (read.reverse ++ text)) rest := by
  induction inside generalizing p read with
  | close => exact ⟨_, by rw [List.append_nil]; rfl, rfl⟩
  | @plain x v text plain _ ih =>
      obtain ⟨c, others, left⟩ := ih (p.after x) (x :: read)
      refine ⟨c, ?_, left⟩
      rw [List.cons_append, readStringFrom, if_neg (Nat.not_lt.mpr plain.2.2), others,
        List.reverse_cons, List.append_assoc, List.singleton_append]
      · exact plain.1
      · exact plain.2.1
  | @short x y v text letter _ ih =>
      obtain ⟨c, others, left⟩ := ih ((p.after '\\').after x) (y :: read)
      refine ⟨c, ?_, left⟩
      rw [List.cons_append, List.cons_append, readStringFrom]
      · simp only [mem_shortEscapes_iff.mp letter]
        rw [others, List.reverse_cons, List.append_assoc, List.singleton_append]
      · exact short_ne_unit letter
  | @unit x y z w n v text digits notHigh notLow _ ih =>
      obtain ⟨c, others, left⟩ :=
        ih ((p.afterAll ['\\', 'u']).afterAll [x, y, z, w]) (Char.ofNat n :: read)
      refine ⟨c, ?_, left⟩
      simp only [List.cons_append]
      rw [readStringFrom]
      simp only [digits, notLow, notHigh, Bool.false_eq_true, if_false]
      rw [others, List.reverse_cons, List.append_assoc, List.singleton_append]
  | @pair x y z w x' y' z' w' m n v text digits high others low _ ih =>
      obtain ⟨c, beyond, left⟩ :=
        ih (((p.afterAll ['\\', 'u']).afterAll [x, y, z, w]).afterAll
          ['\\', 'u', x', y', z', w']) (pairedSurrogates m n :: read)
      have notLow : isLowSurrogate m = false := by
        simp only [isHighSurrogate, isLowSurrogate, Bool.and_eq_true, decide_eq_true_eq,
          Bool.and_eq_false_iff, decide_eq_false_iff_not] at high ⊢
        omega
      refine ⟨c, ?_, left⟩
      simp only [List.cons_append]
      rw [readStringFrom]
      simp only [digits, notLow, high, others, low, Bool.false_eq_true, if_false, if_true]
      rw [beyond, List.reverse_cons, List.append_assoc, List.singleton_append]

theorem readString_sound {c d : Cursor} {rest : List Char} {s : String}
    (quote : c.rest = '"' :: rest) (h : readString c = .ok (s, d)) :
    ∃ v, IsString v s ∧ c.rest = v ++ d.rest := by
  obtain ⟨v, text, inside, behind, rfl⟩ := readStringFrom_sound h
  rw [Cursor.rest_next, quote, List.tail_cons] at behind
  exact ⟨_, .quoted inside, by rw [quote, behind]; rfl⟩

theorem readString_complete {c : Cursor} {v rest : List Char} {s : String} (string : IsString v s)
    (text : c.rest = v ++ rest) : Gives (readString c) s rest := by
  obtain ⟨inside⟩ := string
  rw [readString, Cursor.rest_next, text]
  exact readStringFrom_complete inside rest _ []

/-- A text is a string exactly if it is read as one. -/
theorem isString_iff {v : List Char} {s : String} :
    IsString v s ↔ startsWith '"' (.ofChars v) = true ∧
      (readString (.ofChars v)).map (fun read => (read.1, read.2.rest)) = .ok (s, []) := by
  rw [startsWith_iff]
  constructor
  · intro string
    obtain ⟨d, read, left⟩ := readString_complete (c := .ofChars v) string (List.append_nil v).symm
    obtain ⟨inside⟩ := string
    exact ⟨⟨_, rfl⟩, by rw [read, ← left]; rfl⟩
  · rintro ⟨⟨rest, quote⟩, read⟩
    obtain ⟨⟨t, d⟩, found, same⟩ := exists_of_map_eq_ok read
    obtain ⟨rfl, left⟩ := Prod.mk.inj same
    obtain ⟨w, string, text⟩ := readString_sound quote found
    rw [left, List.append_nil] at text
    change v = w at text
    exact text ▸ string

instance (v : List Char) (s : String) : Decidable (IsString v s) :=
  decidable_of_iff _ isString_iff.symm

theorem rest_skipDigits (c : Cursor) :
    (skipDigits c).2.rest = c.rest.dropWhile (decide <| IsDecimal ·) := by
  have passed (skipped : Nat) (cs : List Char) (p : Position) :
      (skipDigitsFrom skipped cs p).2.rest = cs.dropWhile (decide <| IsDecimal ·) := by
    induction cs generalizing skipped p with
    | nil => rfl
    | cons x cs ih =>
        have digit : (Text.digitValue? x).isSome = decide (IsDecimal x) := by
          by_cases h : '0' ≤ x ∧ x ≤ '9' <;> simp [Text.digitValue?, IsDecimal, h]
        rw [skipDigitsFrom, List.dropWhile_cons, digit]
        split
        · exact ih _ _
        · rfl
  exact passed 0 c.rest c.position

/-- No digit comes first. -/
def PastDigits (rest : List Char) : Prop :=
  ∀ c ∈ rest.head?, ¬IsDecimal c

theorem skipSomeDigits_sound {c d : Cursor} (h : skipSomeDigits c = .ok d) :
    ∃ ds, IsDigits ds ∧ c.rest = ds ++ d.rest := by
  unfold skipSomeDigits at h
  split at h
  · rename_i digit
    cases h
    obtain ⟨x, rest, text, decimal⟩ := startsWithDigit_iff.mp digit
    refine ⟨c.rest.takeWhile (decide <| IsDecimal ·), ⟨?_, fun y hy => ?_⟩, ?_⟩
    · rw [text, List.takeWhile_cons_of_pos (by simpa using decimal)]
      exact List.cons_ne_nil _ _
    · simpa using List.mem_takeWhile_imp hy
    · rw [rest_skipDigits, List.takeWhile_append_dropWhile]
  · exact absurd h (Cursor.failNext_ne_ok _ _ _)

theorem skipSomeDigits_complete {c : Cursor} {ds rest : List Char} (digits : IsDigits ds)
    (past : PastDigits rest) (text : c.rest = ds ++ rest) : Leaves (skipSomeDigits c) rest := by
  have digit : startsWithDigit c = true := by
    obtain ⟨x, others, rfl⟩ := List.exists_cons_of_ne_nil digits.1
    exact startsWithDigit_iff.mpr ⟨x, others ++ rest, text, digits.2 x List.mem_cons_self⟩
  refine ⟨(skipDigits c).2, by rw [skipSomeDigits, if_pos digit], ?_⟩
  rw [rest_skipDigits, text,
    List.dropWhile_append_of_pos fun x hx => decide_eq_true (digits.2 x hx)]
  cases rest with
  | nil => rfl
  | cons x rest => rw [List.dropWhile_cons_of_neg (by simpa using past x rfl)]

/-- Passes over the first of the three parts that a number has behind its sign. -/
def skipWhole (c : Cursor) : Except Failure Cursor :=
  if startsWith '0' c then
    if startsWithDigit c.next then c.next.failNext .badNumber else .ok c.next
  else skipSomeDigits c

def skipFraction (c : Cursor) : Except Failure Cursor :=
  if startsWith '.' c then skipSomeDigits c.next else .ok c

def skipExponent (c : Cursor) : Except Failure Cursor :=
  if startsWithExponent c then
    skipSomeDigits (if startsWith '+' c.next || startsWith '-' c.next then c.next.next else c.next)
  else .ok c

theorem skipNumber_eq (c : Cursor) :
    skipNumber c =
      (skipWhole (if startsWith '-' c then c.next else c)).bind fun c =>
        (skipFraction c).bind skipExponent := by
  rw [skipNumber, skipWhole]
  generalize (if startsWith '-' c then c.next else c) = c
  have others (c : Cursor) : (skipFraction c).bind skipExponent =
      if startsWith '.' c then (skipSomeDigits c.next).bind skipExponent else skipExponent c := by
    rw [skipFraction]
    split <;> rfl
  simp only [others]
  split
  · split <;> rfl
  · rfl

theorem skipWhole_sound {c d : Cursor} (h : skipWhole c = .ok d) :
    ∃ w, IsWhole w ∧ c.rest = w ++ d.rest := by
  unfold skipWhole at h
  split at h
  · rename_i zero
    split at h
    · exact absurd h (Cursor.failNext_ne_ok _ _ _)
    · cases h
      obtain ⟨rest, text⟩ := startsWith_iff.mp zero
      exact ⟨['0'], .zero, by rw [Cursor.rest_next, text]; rfl⟩
  · rename_i notZero
    obtain ⟨ds, ⟨some, digits⟩, text⟩ := skipSomeDigits_sound h
    obtain ⟨x, ds, rfl⟩ := List.exists_cons_of_ne_nil some
    obtain ⟨first, others⟩ := List.forall_mem_cons.mp digits
    refine ⟨_, .digits first (fun zero => notZero ?_) others, text⟩
    exact startsWith_iff.mpr ⟨ds ++ d.rest, by rw [text, zero]; rfl⟩

theorem skipFraction_sound {c d : Cursor} (h : skipFraction c = .ok d) :
    ∃ f, IsFraction f ∧ c.rest = f ++ d.rest := by
  unfold skipFraction at h
  split at h
  · rename_i point
    obtain ⟨rest, text⟩ := startsWith_iff.mp point
    obtain ⟨ds, digits, behind⟩ := skipSomeDigits_sound h
    rw [Cursor.rest_next, text, List.tail_cons] at behind
    exact ⟨_, .point digits, by rw [text, behind, List.cons_append]⟩
  · cases h
    exact ⟨[], .absent, rfl⟩

theorem startsWithExponent_iff {c : Cursor} :
    startsWithExponent c = true ↔ ∃ e rest, c.rest = e :: rest ∧ (e = 'e' ∨ e = 'E') := by
  rw [startsWithExponent, Bool.or_eq_true, startsWith_iff, startsWith_iff]
  constructor
  · rintro (⟨rest, text⟩ | ⟨rest, text⟩)
    · exact ⟨'e', rest, text, .inl rfl⟩
    · exact ⟨'E', rest, text, .inr rfl⟩
  · rintro ⟨e, rest, text, rfl | rfl⟩
    · exact .inl ⟨rest, text⟩
    · exact .inr ⟨rest, text⟩

theorem skipExponent_sound {c d : Cursor} (h : skipExponent c = .ok d) :
    ∃ e, IsExponent e ∧ c.rest = e ++ d.rest := by
  unfold skipExponent at h
  split at h
  · rename_i letter
    obtain ⟨e, rest, text, letter⟩ := startsWithExponent_iff.mp letter
    obtain ⟨ds, digits, behind⟩ := skipSomeDigits_sound h
    have next : c.next.rest = rest := by rw [Cursor.rest_next, text, List.tail_cons]
    split at behind
    · rename_i sign
      rw [Bool.or_eq_true, startsWith_iff, startsWith_iff, next] at sign
      rw [Cursor.rest_next, next] at behind
      obtain ⟨beyond, rfl⟩ | ⟨beyond, rfl⟩ := sign
      · exact ⟨_, .letter letter (.inr (.inl rfl)) digits, by rw [text]; simp [behind.symm]⟩
      · exact ⟨_, .letter letter (.inr (.inr rfl)) digits, by rw [text]; simp [behind.symm]⟩
    · rw [next] at behind
      exact ⟨_, .letter letter (.inl rfl) digits, by rw [text, behind]; rfl⟩
  · cases h
    exact ⟨[], .absent, rfl⟩

theorem skipNumber_sound {c d : Cursor} (h : skipNumber c = .ok d) :
    ∃ n, IsNumber n ∧ c.rest = n ++ d.rest := by
  rw [skipNumber_eq] at h
  obtain ⟨a, whole, h⟩ := exists_of_bind_eq_ok h
  obtain ⟨b, fraction, h⟩ := exists_of_bind_eq_ok h
  obtain ⟨w, isWhole, atWhole⟩ := skipWhole_sound whole
  obtain ⟨f, isFraction, atFraction⟩ := skipFraction_sound fraction
  obtain ⟨e, isExponent, atExponent⟩ := skipExponent_sound h
  rw [atFraction, atExponent] at atWhole
  split at atWhole
  · rename_i minus
    obtain ⟨rest, text⟩ := startsWith_iff.mp minus
    rw [Cursor.rest_next, text, List.tail_cons] at atWhole
    exact ⟨_, .parts (.inr rfl) isWhole isFraction isExponent, by rw [text, atWhole]; simp⟩
  · exact ⟨_, .parts (.inl rfl) isWhole isFraction isExponent, by rw [atWhole]; simp⟩

theorem pastDigits_of_follows {rest : List Char} (follows : Follows rest) : PastDigits rest :=
  fun c hc => (follows c hc).1

theorem pastDigits_exponent {e rest : List Char} (exponent : IsExponent e)
    (follows : Follows rest) : PastDigits (e ++ rest) := by
  cases exponent with
  | absent => exact pastDigits_of_follows follows
  | letter letter =>
      rintro c ⟨⟩
      obtain rfl | rfl := letter <;> decide

theorem pastDigits_fraction {f e rest : List Char} (fraction : IsFraction f)
    (exponent : IsExponent e) (follows : Follows rest) : PastDigits (f ++ (e ++ rest)) := by
  cases fraction with
  | absent => exact pastDigits_exponent (e := e) exponent follows
  | point =>
      rintro c ⟨⟩
      decide

theorem skipWhole_complete {c : Cursor} {w rest : List Char} (whole : IsWhole w)
    (past : PastDigits rest) (text : c.rest = w ++ rest) : Leaves (skipWhole c) rest := by
  cases whole with
  | zero =>
      have next : c.next.rest = rest := by rw [Cursor.rest_next, text]; rfl
      have zero : startsWith '0' c = true := startsWith_iff.mpr ⟨rest, text⟩
      have noDigit : ¬startsWithDigit c.next = true := by
        rw [startsWithDigit_iff, next]
        rintro ⟨d, others, rfl, digit⟩
        exact past d rfl digit
      exact ⟨c.next, by rw [skipWhole, if_pos zero, if_neg noDigit], next⟩
  | digits digit nonzero others =>
      have notZero : ¬startsWith '0' c = true := by
        rw [startsWith_iff, text]
        rintro ⟨rest, same⟩
        exact nonzero (List.cons.inj same).1
      rw [skipWhole, if_neg notZero]
      exact skipSomeDigits_complete ⟨List.cons_ne_nil _ _, List.forall_mem_cons.mpr ⟨digit, others⟩⟩
        past text

theorem skipFraction_complete {c : Cursor} {f rest : List Char} (fraction : IsFraction f)
    (past : PastDigits rest) (noPoint : ∀ x ∈ rest.head?, x ≠ '.') (text : c.rest = f ++ rest) :
    Leaves (skipFraction c) rest := by
  cases fraction with
  | absent =>
      have none : ¬startsWith '.' c = true := by
        rw [startsWith_iff, text]
        rintro ⟨others, rfl⟩
        exact noPoint '.' rfl rfl
      exact ⟨c, by rw [skipFraction, if_neg none], text⟩
  | point digits =>
      rw [skipFraction, if_pos (startsWith_iff.mpr ⟨_, text⟩)]
      exact skipSomeDigits_complete digits past (by rw [Cursor.rest_next, text]; rfl)

theorem skipExponent_complete {c : Cursor} {e rest : List Char} (exponent : IsExponent e)
    (follows : Follows rest) (text : c.rest = e ++ rest) : Leaves (skipExponent c) rest := by
  have past := pastDigits_of_follows follows
  cases exponent with
  | absent =>
      have none : ¬startsWithExponent c = true := by
        rw [startsWithExponent_iff, text]
        rintro ⟨e, others, rfl, rfl | rfl⟩
        · exact (follows _ rfl).2.2.1 rfl
        · exact (follows _ rfl).2.2.2 rfl
      exact ⟨c, by rw [skipExponent, if_neg none], text⟩
  | @letter e s ds letter sign digits =>
      have next : c.next.rest = s ++ (ds ++ rest) := by
        rw [Cursor.rest_next, text, List.cons_append, List.tail_cons, List.append_assoc]
      rw [skipExponent, if_pos (startsWithExponent_iff.mpr ⟨_, _, text, letter⟩)]
      refine skipSomeDigits_complete digits past ?_
      obtain rfl | sign := sign
      · obtain ⟨x, others, rfl⟩ := List.exists_cons_of_ne_nil digits.1
        have digit := digits.2 x List.mem_cons_self
        have unsigned : ¬(startsWith '+' c.next || startsWith '-' c.next) = true := by
          rw [Bool.or_eq_true, startsWith_iff, startsWith_iff, next]
          rintro (⟨rest, same⟩ | ⟨rest, same⟩)
          · exact absurd ((List.cons.inj same).1 ▸ digit) (by decide)
          · exact absurd ((List.cons.inj same).1 ▸ digit) (by decide)
        rw [if_neg unsigned, next]
        rfl
      · have signed : (startsWith '+' c.next || startsWith '-' c.next) = true := by
          rw [Bool.or_eq_true, startsWith_iff, startsWith_iff, next]
          exact sign.imp (fun plus => ⟨_, by rw [plus]; rfl⟩) fun minus => ⟨_, by rw [minus]; rfl⟩
        rw [if_pos signed, Cursor.rest_next, next]
        obtain rfl | rfl := sign <;> rfl

theorem IsWhole.exists_cons {w : List Char} (whole : IsWhole w) :
    ∃ x others, w = x :: others ∧ IsDecimal x := by
  cases whole with
  | zero => exact ⟨'0', [], rfl, by decide⟩
  | digits digit => exact ⟨_, _, rfl, digit⟩

theorem skipNumber_complete {c : Cursor} {n rest : List Char} (number : IsNumber n)
    (follows : Follows rest) (text : c.rest = n ++ rest) : Leaves (skipNumber c) rest := by
  obtain @⟨s, w, f, e, sign, whole, fraction, exponent⟩ := number
  have unsigned : (if startsWith '-' c then c.next else c).rest = w ++ (f ++ (e ++ rest)) := by
    obtain rfl | rfl := sign
    · obtain ⟨x, others, rfl, digit⟩ := whole.exists_cons
      have noMinus : ¬startsWith '-' c = true := by
        rw [startsWith_iff, text]
        rintro ⟨rest, same⟩
        exact absurd ((List.cons.inj same).1 ▸ digit) (by decide)
      rw [if_neg noMinus, text]
      simp
    · rw [if_pos (startsWith_iff.mpr ⟨_, text⟩), Cursor.rest_next, text]
      simp
  have noPoint : ∀ x ∈ (e ++ rest).head?, x ≠ '.' := by
    cases exponent with
    | absent => exact fun x hx => (follows x hx).2.1
    | letter letter =>
        rintro x ⟨⟩
        obtain rfl | rfl := letter <;> decide
  obtain ⟨a, first, atFraction⟩ :=
    skipWhole_complete whole (pastDigits_fraction fraction exponent follows) unsigned
  obtain ⟨b, second, atExponent⟩ :=
    skipFraction_complete fraction (pastDigits_exponent exponent follows) noPoint atFraction
  obtain ⟨d, third, behind⟩ := skipExponent_complete exponent follows atExponent
  exact ⟨d, by rw [skipNumber_eq, first, Except.bind, second, Except.bind, third], behind⟩

theorem expectWord_sound {word : List Char} {c d : Cursor} (h : expectWord word c = .ok d) :
    c.rest = word ++ d.rest := by
  induction word generalizing c with
  | nil =>
      cases h
      rfl
  | cons x word ih =>
      unfold expectWord at h
      split at h
      · cases h
      · rename_i y rest text
        split at h
        · rename_i same
          have behind := ih h
          rw [Cursor.rest_next, text, List.tail_cons] at behind
          rw [text, behind, same, List.cons_append]
        · exact absurd h (Cursor.failNext_ne_ok _ _ _)

theorem expectWord_complete {word rest : List Char} {c : Cursor} (text : c.rest = word ++ rest) :
    Leaves (expectWord word c) rest := by
  induction word generalizing c with
  | nil => exact ⟨c, rfl, text⟩
  | cons x word ih =>
      rw [List.cons_append] at text
      simp only [expectWord, text, if_true]
      exact ih (by rw [Cursor.rest_next, text, List.tail_cons])

theorem readColon_sound {c d : Cursor} (h : readColon c = .ok d) :
    ∃ ws, IsSpaces ws ∧ c.rest = ws ++ ':' :: d.rest := by
  obtain ⟨ws, spaces, text⟩ := exists_spaces c
  unfold readColon at h
  simp only at h
  split at h
  · cases h
  · rename_i x rest visible
    split at h
    · rename_i colon
      cases h
      refine ⟨ws, spaces, ?_⟩
      rw [text, Cursor.rest_next, visible, colon, List.tail_cons]
    · exact absurd h (Cursor.failNext_ne_ok _ _ _)

theorem readColon_complete {c : Cursor} {ws rest : List Char} (spaces : IsSpaces ws)
    (text : c.rest = ws ++ ':' :: rest) : Leaves (readColon c) rest := by
  have visible : c.skipSpace.rest = ':' :: rest :=
    rest_skipSpace_of spaces text (by rintro x ⟨⟩; decide)
  refine ⟨c.skipSpace.next, ?_, by rw [Cursor.rest_next, visible, List.tail_cons]⟩
  simp only [readColon, visible, if_true]

end Json
end StreamPipelines
