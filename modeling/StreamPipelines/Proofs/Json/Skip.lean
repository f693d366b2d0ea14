import StreamPipelines.Json.Reader
import StreamPipelines.Proofs.Json.Token

/-!
Values that are passed over. What is passed over is one value as the grammar has it, with white
space before it, and every such value is passed over, however deep its arrays and objects go.
-/

namespace StreamPipelines
namespace Json

open Text (IsDecimal)

/-- The reader passes over values only, with white space before them. -/
def SkipsOnlyValues (item : Cursor → Except Failure Cursor) : Prop :=
  ∀ c d, item c = .ok d → ∃ ws v, IsSpaces ws ∧ IsValue v ∧ c.rest = ws ++ (v ++ d.rest)

/-- The reader passes over every value of at most `n` characters. -/
def SkipsValues (n : Nat) (item : Cursor → Except Failure Cursor) : Prop :=
  ∀ c ws v rest, IsSpaces ws → IsValue v → v.length ≤ n → Follows rest →
    c.rest = ws ++ (v ++ rest) → Leaves (item c) rest

theorem IsSpaces.append {ws ws' : List Char} (h : IsSpaces ws) (h' : IsSpaces ws') :
    IsSpaces (ws ++ ws') :=
  fun c hc => (List.mem_append.mp hc).elim (h c) (h' c)

theorem skipItems_sound {item : Cursor → Except Failure Cursor} (only : SkipsOnlyValues item)
    {fuel : Nat} {first : Bool} {c d : Cursor}
    (h : skipValue.skipItems item fuel first c = .ok d) :
    ∃ cs items, IsItems first cs items ∧ c.rest = cs ++ d.rest := by
  induction fuel generalizing first c with
  | zero => cases h
  | succ fuel ih =>
      obtain ⟨ws, spaces, text⟩ := exists_spaces c
      rw [skipValue.skipItems] at h
      split at h
      · cases h
      rename_i x rest visible
      split at h
      · rename_i bracket
        cases h
        refine ⟨_, _, .close spaces, ?_⟩
        rw [text, Cursor.rest_next, visible, bracket, List.tail_cons, List.append_assoc,
          List.singleton_append]
      split at h
      · rename_i isFirst
        cases isFirst
        obtain ⟨e, passed, h⟩ := exists_of_bind_eq_ok h
        obtain ⟨ws', v, spaces', value, atItem⟩ := only _ _ passed
        obtain ⟨cs, items, others, behind⟩ := ih h
        refine ⟨_, _, .item (.first (spaces.append spaces')) value others, ?_⟩
        rw [text, atItem, behind]
        simp
      split at h
      · rename_i notFirst comma
        obtain rfl : first = false := by simpa using notFirst
        obtain ⟨e, passed, h⟩ := exists_of_bind_eq_ok h
        obtain ⟨ws', v, spaces', value, atItem⟩ := only _ _ passed
        obtain ⟨cs, items, others, behind⟩ := ih h
        refine ⟨_, _, .item (.comma spaces spaces') value others, ?_⟩
        rw [Cursor.rest_next, visible, List.tail_cons] at atItem
        rw [text, visible, comma, atItem, behind]
        simp
      · exact absurd h (Cursor.failNext_ne_ok _ _ _)

theorem skipMember_sound {item : Cursor → Except Failure Cursor} (only : SkipsOnlyValues item)
    {c d : Cursor} (h : skipValue.skipMember item c = .ok d) :
    ∃ ws k before behind v, IsSpaces ws ∧ IsInside k ∧ IsSpaces before ∧ IsSpaces behind ∧
      IsValue v ∧
      c.rest = ws ++ '"' :: (k ++ (before ++ ':' :: (behind ++ (v ++ d.rest)))) := by
  obtain ⟨ws, spaces, text⟩ := exists_spaces c
  unfold skipValue.skipMember at h
  simp only at h
  split at h
  · cases h
  rename_i x rest visible
  split at h
  · rename_i quote
    subst quote
    obtain ⟨afterKey, key, h⟩ := exists_of_bind_eq_ok h
    obtain ⟨afterColon, colon, h⟩ := exists_of_bind_eq_ok h
    obtain ⟨k, inside, atKey⟩ := skipString_sound visible key
    obtain ⟨before, spacesBefore, atColon⟩ := readColon_sound colon
    obtain ⟨behind, v, spacesBehind, value, atValue⟩ := only _ _ h
    refine ⟨ws, k, before, behind, v, spaces, inside, spacesBefore, spacesBehind, value, ?_⟩
    rw [text, atKey, atColon, atValue]
  · exact absurd h (Cursor.failNext_ne_ok _ _ _)

theorem skipMembers_sound {item : Cursor → Except Failure Cursor} (only : SkipsOnlyValues item)
    {fuel : Nat} {first : Bool} {c d : Cursor}
    (h : skipValue.skipMembers item fuel first c = .ok d) :
    ∃ cs members, IsMembers first cs members ∧ c.rest = cs ++ d.rest := by
  induction fuel generalizing first c with
  | zero => cases h
  | succ fuel ih =>
      obtain ⟨ws, spaces, text⟩ := exists_spaces c
      rw [skipValue.skipMembers] at h
      split at h
      · cases h
      rename_i x rest visible
      split at h
      · rename_i brace
        cases h
        refine ⟨_, _, .close spaces, ?_⟩
        rw [text, Cursor.rest_next, visible, brace, List.tail_cons, List.append_assoc,
          List.singleton_append]
      split at h
      · rename_i isFirst
        cases isFirst
        obtain ⟨e, passed, h⟩ := exists_of_bind_eq_ok h
        obtain ⟨ws', k, before, behind, v, spaces', key, spacesBefore, spacesBehind, value,
          atMember⟩ := skipMember_sound only passed
        obtain ⟨cs, members, others, atOthers⟩ := ih h
        refine ⟨_, _, .member (.first (spaces.append spaces')) key spacesBefore spacesBehind value
          others, ?_⟩
        rw [text, atMember, atOthers]
        simp
      split at h
      · rename_i notFirst comma
        obtain rfl : first = false := by simpa using notFirst
        obtain ⟨e, passed, h⟩ := exists_of_bind_eq_ok h
        obtain ⟨ws', k, before, behind, v, spaces', key, spacesBefore, spacesBehind, value,
          atMember⟩ := skipMember_sound only passed
        obtain ⟨cs, members, others, atOthers⟩ := ih h
        refine ⟨_, _, .member (.comma spaces spaces') key spacesBefore spacesBehind value
          others, ?_⟩
        rw [Cursor.rest_next, visible, List.tail_cons] at atMember
        rw [text, visible, comma, atMember, atOthers]
        simp
      · exact absurd h (Cursor.failNext_ne_ok _ _ _)

/-- Passes over a value; what to do with an array and an object is given. -/
def skipValueBy (list object : Cursor → Except Failure Cursor) (c : Cursor) :
    Except Failure Cursor :=
  let c := c.skipSpace
  match c.rest with
  | [] => c.fail .endInValue
  | x :: _ =>
      if x = 'n' then expectWord ['u', 'l', 'l'] c.next
      else if x = 't' then expectWord ['r', 'u', 'e'] c.next
      else if x = 'f' then expectWord ['a', 'l', 's', 'e'] c.next
      else if x = '"' then skipString c
      else if x = '-' || (Text.digitValue? x).isSome then skipNumber c
      else if x = '[' then list c
      else if x = '{' then object c
      else c.failNext .noValue

theorem skipValue_zero :
    skipValue 0 = skipValueBy (·.failNext .tooDeep) (·.failNext .tooDeep) := by
  funext c
  rw [skipValue]
  rfl

theorem skipValue_succ (depth : Nat) :
    skipValue (depth + 1) =
      skipValueBy (fun c => skipValue.skipItems (skipValue depth) (c.rest.length + 1) true c.next)
        (fun c => skipValue.skipMembers (skipValue depth) (c.rest.length + 1) true c.next) := by
  funext c
  rw [skipValue]
  rfl

theorem skipsOnlyValues_skipValueBy {list object : Cursor → Except Failure Cursor}
    (isArray : ∀ c d rest, c.rest = '[' :: rest → list c = .ok d →
      ∃ cs items, IsItems true cs items ∧ rest = cs ++ d.rest)
    (isObject : ∀ c d rest, c.rest = '{' :: rest → object c = .ok d →
      ∃ cs members, IsMembers true cs members ∧ rest = cs ++ d.rest) :
    SkipsOnlyValues (skipValueBy list object) := by
  intro c d h
  obtain ⟨ws, spaces, text⟩ := exists_spaces c
  rw [skipValueBy] at h
  generalize c.skipSpace = e at h text
  rw [text]
  suffices value : ∃ v, IsValue v ∧ e.rest = v ++ d.rest by
    obtain ⟨v, value, behind⟩ := value
    exact ⟨ws, v, spaces, value, by rw [behind]⟩
  have word {x : Char} {word rest : List Char} (first : e.rest = x :: rest)
      (h : expectWord word e.next = .ok d) : e.rest = x :: word ++ d.rest := by
    have behind := expectWord_sound h
    rw [Cursor.rest_next, first, List.tail_cons] at behind
    rw [first, behind, List.cons_append]
  split at h
  · cases h
  rename_i x rest visible
  split_ifs at h with null true false quote number bracket brace
  · subst null
    exact ⟨_, .null, word visible h⟩
  · subst true
    exact ⟨_, .true, word visible h⟩
  · subst false
    exact ⟨_, .false, word visible h⟩
  · subst quote
    obtain ⟨v, inside, behind⟩ := skipString_sound visible h
    exact ⟨_, .string inside, behind⟩
  · obtain ⟨n, isNumber, behind⟩ := skipNumber_sound h
    exact ⟨n, .number isNumber, behind⟩
  · subst bracket
    obtain ⟨cs, items, array, behind⟩ := isArray e d rest visible h
    exact ⟨_, .array array, by rw [visible, behind, List.cons_append]⟩
  · subst brace
    obtain ⟨cs, members, object, behind⟩ := isObject e d rest visible h
    exact ⟨_, .object object, by rw [visible, behind, List.cons_append]⟩
  · exact absurd h (Cursor.failNext_ne_ok _ _ _)

theorem skipsOnlyValues_skipValue (depth : Nat) : SkipsOnlyValues (skipValue depth) := by
  induction depth with
  | zero =>
      rw [skipValue_zero]
      exact skipsOnlyValues_skipValueBy (fun c d rest _ h => absurd h (c.failNext_ne_ok _ d))
        (fun c d rest _ h => absurd h (c.failNext_ne_ok _ d))
  | succ depth ih =>
      rw [skipValue_succ]
      refine skipsOnlyValues_skipValueBy (fun c d rest text h => ?_) (fun c d rest text h => ?_)
      · obtain ⟨cs, items, array, behind⟩ := skipItems_sound ih h
        exact ⟨cs, items, array, by rw [← behind, Cursor.rest_next, text, List.tail_cons]⟩
      · obtain ⟨cs, members, object, behind⟩ := skipMembers_sound ih h
        exact ⟨cs, members, object, by rw [← behind, Cursor.rest_next, text, List.tail_cons]⟩

/-- A character that can come first in a value. -/
def BeginsValue (x : Char) : Prop :=
  Cursor.isSpace x = false ∧ x ≠ ']'

instance (x : Char) : Decidable (BeginsValue x) :=
  inferInstanceAs (Decidable (_ ∧ _))

theorem beginsValue_of_isDecimal {x : Char} (digit : IsDecimal x) : BeginsValue x := by
  refine ⟨?_, fun bracket => absurd (bracket ▸ digit) (by decide)⟩
  rw [Cursor.isSpace]
  simp only [Bool.or_eq_false_iff, decide_eq_false_iff_not]
  refine ⟨⟨⟨?_, ?_⟩, ?_⟩, ?_⟩ <;> exact fun same => absurd (same ▸ digit) (by decide)

theorem IsNumber.exists_cons {n : List Char} (number : IsNumber n) :
    ∃ x others, n = x :: others ∧ (x = '-' ∨ IsDecimal x) := by
  obtain @⟨s, w, f, e, sign, whole, -, -⟩ := number
  obtain ⟨x, others, rfl, digit⟩ := whole.exists_cons
  obtain rfl | rfl := sign
  · exact ⟨x, _, rfl, .inr digit⟩
  · exact ⟨'-', _, rfl, .inl rfl⟩

/-- The first character of a number tells it from the other values. -/
theorem ne_of_first_of_number {x : Char} (first : x = '-' ∨ IsDecimal x) :
    x ≠ 'n' ∧ x ≠ 't' ∧ x ≠ 'f' ∧ x ≠ '"' ∧
      (decide (x = '-') || (Text.digitValue? x).isSome) = true := by
  obtain rfl | digit := first
  · decide
  · have other {y : Char} (noDigit : ¬IsDecimal y) : x ≠ y := fun same => noDigit (same ▸ digit)
    refine ⟨other (by decide), other (by decide), other (by decide), other (by decide), ?_⟩
    obtain ⟨low, high⟩ := digit
    simp [Text.digitValue?, low, high]

theorem IsValue.exists_cons {v : List Char} (value : IsValue v) :
    ∃ x others, v = x :: others ∧ BeginsValue x := by
  cases value with
  | number number =>
      obtain ⟨x, others, rfl, rfl | digit⟩ := number.exists_cons
      · exact ⟨_, _, rfl, by decide⟩
      · exact ⟨_, _, rfl, beginsValue_of_isDecimal digit⟩
  | null | true | false | string | array | object => exact ⟨_, _, rfl, by decide⟩

theorem follows_nil : Follows [] :=
  nofun

theorem follows_spaces {ws rest : List Char} {x : Char} (spaces : IsSpaces ws)
    (mark : x = ',' ∨ x = ']' ∨ x = '}') : Follows (ws ++ x :: rest) := by
  cases ws with
  | nil =>
      rintro c ⟨⟩
      obtain rfl | rfl | rfl := mark <;> decide
  | cons w ws =>
      rintro c ⟨⟩
      have space := spaces w List.mem_cons_self
      simp only [Cursor.isSpace, Bool.or_eq_true, decide_eq_true_eq] at space
      obtain ((rfl | rfl) | rfl) | rfl := space <;> decide

theorem follows_items {cs : List Char} {items : List (List Char)} (array : IsItems false cs items)
    (rest : List Char) : Follows (cs ++ rest) := by
  cases array with
  | close spaces =>
      rw [List.append_assoc]
      exact follows_spaces spaces (.inr (.inl rfl))
  | item lead =>
      cases lead with
      | comma before =>
          rw [List.append_assoc, List.append_assoc, List.cons_append]
          exact follows_spaces before (.inl rfl)

theorem follows_members {cs : List Char} {members : List (List Char × List Char)}
    (object : IsMembers false cs members) (rest : List Char) : Follows (cs ++ rest) := by
  cases object with
  | close spaces =>
      rw [List.append_assoc]
      exact follows_spaces spaces (.inr (.inr rfl))
  | member lead =>
      cases lead with
      | comma before =>
          rw [List.append_assoc, List.append_assoc, List.cons_append]
          exact follows_spaces before (.inl rfl)

/-- White space is passed over up to a value. -/
theorem rest_skipSpace_of_value {c : Cursor} {ws v rest : List Char} (spaces : IsSpaces ws)
    (value : IsValue v) (text : c.rest = ws ++ (v ++ rest)) : c.skipSpace.rest = v ++ rest := by
  obtain ⟨x, others, rfl, begins⟩ := value.exists_cons
  refine rest_skipSpace_of spaces text ?_
  rintro y ⟨⟩
  exact begins.1

theorem skipItems_complete {n : Nat} {item : Cursor → Except Failure Cursor}
    (skips : SkipsValues n item) {fuel : Nat} {first : Bool} {c : Cursor} {cs rest : List Char}
    {items : List (List Char)} (array : IsItems first cs items) (short : cs.length ≤ n)
    (enough : cs.length ≤ fuel) (text : c.rest = cs ++ rest) :
    Leaves (skipValue.skipItems item fuel first c) rest := by
  induction fuel generalizing first c cs items with
  | zero =>
      cases array with
      | close => simp at enough
      | item lead value =>
          obtain ⟨x, others, rfl, -⟩ := value.exists_cons
          simp at enough
  | succ fuel ih =>
      cases array with
      | close spaces =>
          rw [List.append_assoc] at text
          have visible : c.skipSpace.rest = ']' :: rest :=
            rest_skipSpace_of spaces text (by rintro x ⟨⟩; decide)
          simp only [skipValue.skipItems, visible, if_true]
          exact ⟨_, rfl, by rw [Cursor.rest_next, visible, List.tail_cons]⟩
      | @item _ l v cs _ lead value others =>
          have follows := follows_items others rest
          have shorter : v.length ≤ n ∧ cs.length ≤ n ∧ cs.length ≤ fuel := by
            obtain ⟨x, others, rfl, -⟩ := value.exists_cons
            simp only [List.length_append, List.length_cons] at short enough ⊢
            omega
          have loop (d : Cursor) (passed : d.rest = cs ++ rest) :
              Leaves (skipValue.skipItems item fuel false d) rest :=
            ih others shorter.2.1 shorter.2.2 passed
          cases lead with
          | first spaces =>
              simp only [List.append_assoc] at text
              have visible := rest_skipSpace_of_value spaces value text
              obtain ⟨d, passed, behind⟩ := skips c.skipSpace [] v _ isSpaces_nil value
                shorter.1 follows visible
              obtain ⟨x, others, rfl, begins⟩ := value.exists_cons
              rw [skipValue.skipItems]
              simp only [visible, List.cons_append, begins.2, if_false, if_true, passed]
              exact loop d behind
          | @comma ws ws' before behind =>
              simp only [List.append_assoc, List.cons_append] at text
              have visible : c.skipSpace.rest = ',' :: (ws' ++ (v ++ (cs ++ rest))) :=
                rest_skipSpace_of before text (by rintro x ⟨⟩; decide)
              obtain ⟨d, passed, left⟩ := skips c.skipSpace.next ws' v _ behind value shorter.1
                follows (by rw [Cursor.rest_next, visible, List.tail_cons])
              have notBracket : ',' ≠ ']' := by decide
              rw [skipValue.skipItems]
              simp only [visible, notBracket, Bool.false_eq_true, if_false, if_true, passed]
              exact loop d left

theorem skipMember_complete {n : Nat} {item : Cursor → Except Failure Cursor}
    (skips : SkipsValues n item) {c : Cursor} {ws k before behind v rest : List Char}
    (spaces : IsSpaces ws) (key : IsInside k) (spacesBefore : IsSpaces before)
    (spacesBehind : IsSpaces behind) (value : IsValue v) (short : v.length ≤ n)
    (follows : Follows rest)
    (text : c.rest = ws ++ '"' :: (k ++ (before ++ ':' :: (behind ++ (v ++ rest))))) :
    Leaves (skipValue.skipMember item c) rest := by
  have visible := rest_skipSpace_of spaces text (by rintro x ⟨⟩; decide)
  obtain ⟨afterKey, keyPassed, atColon⟩ := skipString_complete key visible
  obtain ⟨afterColon, colonPassed, atValue⟩ := readColon_complete spacesBefore atColon
  simp only [skipValue.skipMember, visible, if_true, keyPassed, colonPassed, bind, Except.bind]
  exact skips afterColon behind v rest spacesBehind value short follows atValue

theorem skipMembers_complete {n : Nat} {item : Cursor → Except Failure Cursor}
    (skips : SkipsValues n item) {fuel : Nat} {first : Bool} {c : Cursor} {cs rest : List Char}
    {members : List (List Char × List Char)} (object : IsMembers first cs members)
    (short : cs.length ≤ n) (enough : cs.length ≤ fuel) (text : c.rest = cs ++ rest) :
    Leaves (skipValue.skipMembers item fuel first c) rest := by
  induction fuel generalizing first c cs members with
  | zero => cases object <;> simp at enough
  | succ fuel ih =>
      cases object with
      | close spaces =>
          rw [List.append_assoc] at text
          have visible : c.skipSpace.rest = '}' :: rest :=
            rest_skipSpace_of spaces text (by rintro x ⟨⟩; decide)
          simp only [skipValue.skipMembers, visible, if_true]
          exact ⟨_, rfl, by rw [Cursor.rest_next, visible, List.tail_cons]⟩
      | @member _ l k ws ws' v cs _ lead key spacesBefore spacesBehind value others =>
          have follows := follows_members others rest
          have shorter : v.length ≤ n ∧ cs.length ≤ n ∧ cs.length ≤ fuel := by
            simp only [List.length_append, List.length_cons] at short enough
            omega
          have loop (d : Cursor) (passed : d.rest = cs ++ rest) :
              Leaves (skipValue.skipMembers item fuel false d) rest :=
            ih others shorter.2.1 shorter.2.2 passed
          cases lead with
          | first spaces =>
              simp only [List.append_assoc, List.cons_append] at text
              have visible := rest_skipSpace_of spaces text (by rintro x ⟨⟩; decide)
              obtain ⟨d, passed, left⟩ := skipMember_complete skips isSpaces_nil
                key spacesBefore spacesBehind value shorter.1 follows visible
              have notBrace : '"' ≠ '}' := by decide
              rw [skipValue.skipMembers]
              simp only [visible, notBrace, if_false, if_true, passed]
              exact loop d left
          | @comma before behind spaces spaces' =>
              simp only [List.append_assoc, List.cons_append] at text
              have visible := rest_skipSpace_of spaces text (by rintro x ⟨⟩; decide)
              obtain ⟨d, passed, left⟩ := skipMember_complete skips (c := c.skipSpace.next) spaces'
                key spacesBefore spacesBehind value shorter.1 follows
                (by rw [Cursor.rest_next, visible, List.tail_cons])
              have notBrace : ',' ≠ '}' := by decide
              rw [skipValue.skipMembers]
              simp only [visible, notBrace, Bool.false_eq_true, if_false, if_true, passed]
              exact loop d left

theorem skipsValues_skipValueBy {n : Nat} {list object : Cursor → Except Failure Cursor}
    (isArray : ∀ c cs items rest, IsItems true cs items → cs.length < n →
      c.rest = '[' :: (cs ++ rest) → Leaves (list c) rest)
    (isObject : ∀ c cs members rest, IsMembers true cs members → cs.length < n →
      c.rest = '{' :: (cs ++ rest) → Leaves (object c) rest) :
    SkipsValues n (skipValueBy list object) := by
  intro c ws v rest spaces value short follows text
  have visible := rest_skipSpace_of_value spaces value text
  rw [skipValueBy]
  generalize c.skipSpace = c at visible
  have next {x : Char} {others : List Char} (first : c.rest = x :: others) :
      c.next.rest = others := by
    rw [Cursor.rest_next, first, List.tail_cons]
  cases value with
  | null =>
      simp only [visible, List.cons_append, if_true]
      exact expectWord_complete (next visible)
  | true =>
      simp only [visible, List.cons_append, Char.reduceEq, if_false, if_true]
      exact expectWord_complete (next visible)
  | false =>
      simp only [visible, List.cons_append, Char.reduceEq, if_false, if_true]
      exact expectWord_complete (next visible)
  | string inside =>
      simp only [visible, List.cons_append, Char.reduceEq, if_false, if_true]
      exact skipString_complete inside visible
  | array items =>
      have digit : (Text.digitValue? '[').isSome = false := by decide
      simp only [visible, List.cons_append, Char.reduceEq, if_false, if_true, digit, decide_false,
        Bool.or_self, Bool.false_eq_true]
      exact isArray c _ _ rest items short visible
  | object members =>
      have digit : (Text.digitValue? '{').isSome = false := by decide
      simp only [visible, List.cons_append, Char.reduceEq, if_false, if_true, digit, decide_false,
        Bool.or_self, Bool.false_eq_true]
      exact isObject c _ _ rest members short visible
  | number number =>
      have passed := skipNumber_complete number follows visible
      obtain ⟨x, others, rfl, first⟩ := number.exists_cons
      obtain ⟨null, true, false, quote, numeric⟩ := ne_of_first_of_number first
      simp only [visible, List.cons_append, null, true, false, quote, numeric, if_false, if_true]
      exact passed

theorem skipsValues_skipValue (depth : Nat) : SkipsValues depth (skipValue depth) := by
  induction depth with
  | zero =>
      intro c ws v rest spaces value short
      obtain ⟨x, others, rfl, -⟩ := value.exists_cons
      cases short
  | succ depth ih =>
      rw [skipValue_succ]
      refine skipsValues_skipValueBy (fun c cs items rest array short text => ?_)
        (fun c cs members rest object short text => ?_)
      · refine skipItems_complete ih array (Nat.le_of_lt_succ short) ?_
          (by rw [Cursor.rest_next, text, List.tail_cons])
        rw [text]
        simp only [List.length_cons, List.length_append]
        omega
      · refine skipMembers_complete ih object (Nat.le_of_lt_succ short) ?_
          (by rw [Cursor.rest_next, text, List.tail_cons])
        rw [text]
        simp only [List.length_cons, List.length_append]
        omega

/-- A value is passed over, however deep it is, and nothing else is. -/
theorem skipAnyValue_sound {c d : Cursor} (h : skipAnyValue c = .ok d) :
    ∃ ws v, IsSpaces ws ∧ IsValue v ∧ c.rest = ws ++ (v ++ d.rest) :=
  skipsOnlyValues_skipValue _ c d h

theorem skipAnyValue_complete {c : Cursor} {ws v rest : List Char} (spaces : IsSpaces ws)
    (value : IsValue v) (follows : Follows rest) (text : c.rest = ws ++ (v ++ rest)) :
    Leaves (skipAnyValue c) rest := by
  refine skipsValues_skipValue _ c ws v rest spaces value ?_ follows text
  rw [text]
  simp only [List.length_append]
  omega

/-- A text is a value exactly if it does not begin with white space and is passed over. -/
theorem isValue_iff {v : List Char} :
    IsValue v ↔ v.head?.any Cursor.isSpace = false ∧
      (skipAnyValue (.ofChars v)).map (·.rest) = .ok [] := by
  constructor
  · intro value
    obtain ⟨d, skipped, left⟩ := skipAnyValue_complete (c := .ofChars v) isSpaces_nil value
      follows_nil (List.append_nil v).symm
    obtain ⟨x, others, rfl, begins⟩ := value.exists_cons
    exact ⟨begins.1, by rw [skipped, ← left]; rfl⟩
  · rintro ⟨visible, skipped⟩
    obtain ⟨d, skipped, left⟩ := exists_of_map_eq_ok skipped
    obtain ⟨ws, w, spaces, value, text⟩ := skipAnyValue_sound skipped
    rw [left, List.append_nil] at text
    change v = ws ++ w at text
    cases ws with
    | nil => exact text ▸ value
    | cons x ws =>
        have space := spaces x List.mem_cons_self
        rw [text] at visible
        exact absurd (space.symm.trans visible) (by decide)

instance (v : List Char) : Decidable (IsValue v) :=
  decidable_of_iff _ isValue_iff.symm

end Json
end StreamPipelines
