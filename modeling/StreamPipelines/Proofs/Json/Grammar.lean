import Mathlib.Data.List.Defs
import StreamPipelines.Json.Token
import StreamPipelines.Proofs.Text.Digits

/-!
The grammar of JSON texts, as predicates of characters that say nothing of how they are read. A
text is white space, a value and white space. The inside of a string, of an array and of an object
includes the closing mark. A string is looked at in two ways: every well-formed one is a value,
but with half of a surrogate pair alone it stands for no text, and then it names no member.
-/

namespace StreamPipelines
namespace Json

open Text (IsDecimal)

def IsSpaces (cs : List Char) : Prop :=
  ∀ c ∈ cs, Cursor.isSpace c = true

theorem isSpaces_nil : IsSpaces [] :=
  nofun

def IsDigits (cs : List Char) : Prop :=
  cs ≠ [] ∧ ∀ c ∈ cs, IsDecimal c

/-- A zero stands alone before the point. -/
inductive IsWhole : List Char → Prop
  | zero : IsWhole ['0']
  | digits {c : Char} {cs : List Char} (digit : IsDecimal c) (nonzero : c ≠ '0')
      (others : ∀ d ∈ cs, IsDecimal d) : IsWhole (c :: cs)

inductive IsFraction : List Char → Prop
  | absent : IsFraction []
  | point {ds : List Char} (digits : IsDigits ds) : IsFraction ('.' :: ds)

inductive IsExponent : List Char → Prop
  | absent : IsExponent []
  | letter {e : Char} {s ds : List Char} (letter : e = 'e' ∨ e = 'E')
      (sign : s = [] ∨ s = ['+'] ∨ s = ['-']) (digits : IsDigits ds) :
      IsExponent (e :: (s ++ ds))

inductive IsNumber : List Char → Prop
  | parts {s w f e : List Char} (sign : s = [] ∨ s = ['-']) (whole : IsWhole w)
      (fraction : IsFraction f) (exponent : IsExponent e) : IsNumber (s ++ (w ++ (f ++ e)))

/-- A character that stands for itself in a string. -/
def IsPlain (c : Char) : Prop :=
  c ≠ '"' ∧ c ≠ '\\' ∧ 0x20 ≤ c.toNat

instance (c : Char) : Decidable (IsPlain c) :=
  inferInstanceAs (Decidable (_ ∧ _))

/-- The letters of the short escapes, with what they stand for. -/
def shortEscapes : List (Char × Char) :=
  [('"', '"'), ('\\', '\\'), ('/', '/'), ('b', '\x08'), ('f', '\x0c'), ('n', '\n'), ('r', '\r'),
    ('t', '\t')]

/-- What follows the opening quote of a string, to the closing one. -/
inductive IsInside : List Char → Prop
  | close : IsInside ['"']
  | plain {c : Char} {cs : List Char} (plain : IsPlain c) (others : IsInside cs) :
      IsInside (c :: cs)
  | short {x y : Char} {cs : List Char} (letter : (x, y) ∈ shortEscapes) (others : IsInside cs) :
      IsInside ('\\' :: x :: cs)
  | unit {a b c d : Char} {n : Nat} {cs : List Char} (digits : hexQuad? a b c d = some n)
      (others : IsInside cs) : IsInside ('\\' :: 'u' :: a :: b :: c :: d :: cs)

/-- What follows the opening quote, and the characters that it stands for. -/
inductive IsInsideOf : List Char → List Char → Prop
  | close : IsInsideOf ['"'] []
  | plain {c : Char} {cs text : List Char} (plain : IsPlain c) (others : IsInsideOf cs text) :
      IsInsideOf (c :: cs) (c :: text)
  | short {x y : Char} {cs text : List Char} (letter : (x, y) ∈ shortEscapes)
      (others : IsInsideOf cs text) : IsInsideOf ('\\' :: x :: cs) (y :: text)
  | unit {a b c d : Char} {n : Nat} {cs text : List Char} (digits : hexQuad? a b c d = some n)
      (notHigh : isHighSurrogate n = false) (notLow : isLowSurrogate n = false)
      (others : IsInsideOf cs text) :
      IsInsideOf ('\\' :: 'u' :: a :: b :: c :: d :: cs) (Char.ofNat n :: text)
  | pair {a b c d e f g h : Char} {m n : Nat} {cs text : List Char}
      (digits : hexQuad? a b c d = some m) (high : isHighSurrogate m = true)
      (others : hexQuad? e f g h = some n) (low : isLowSurrogate n = true)
      (rest : IsInsideOf cs text) :
      IsInsideOf ('\\' :: 'u' :: a :: b :: c :: d :: '\\' :: 'u' :: e :: f :: g :: h :: cs)
        (pairedSurrogates m n :: text)

/-- The string stands for the text. -/
inductive IsString : List Char → String → Prop
  | quoted {cs text : List Char} (inside : IsInsideOf cs text) :
      IsString ('"' :: cs) (String.ofList text)

theorem IsInsideOf.isInside {cs text : List Char} (h : IsInsideOf cs text) : IsInside cs := by
  induction h with
  | close => exact .close
  | plain plain _ ih => exact .plain plain ih
  | short letter _ ih => exact .short letter ih
  | unit digits _ _ _ ih => exact .unit digits ih
  | pair digits _ others _ _ ih => exact .unit digits (.unit others ih)

/-- What stands before an item or member: a comma, unless it is the first one. -/
inductive IsLead : (first : Bool) → List Char → Prop
  | first {ws : List Char} (spaces : IsSpaces ws) : IsLead true ws
  | comma {ws ws' : List Char} (before : IsSpaces ws) (behind : IsSpaces ws') :
      IsLead false (ws ++ ',' :: ws')

mutual

inductive IsValue : List Char → Prop
  | null : IsValue ['n', 'u', 'l', 'l']
  | true : IsValue ['t', 'r', 'u', 'e']
  | false : IsValue ['f', 'a', 'l', 's', 'e']
  | number {cs : List Char} (number : IsNumber cs) : IsValue cs
  | string {cs : List Char} (inside : IsInside cs) : IsValue ('"' :: cs)
  | array {cs : List Char} {items : List (List Char)} (items : IsItems true cs items) :
      IsValue ('[' :: cs)
  | object {cs : List Char} {members : List (List Char × List Char)}
      (members : IsMembers true cs members) : IsValue ('{' :: cs)

/-- What follows the opening bracket of an array, or one of its items, and the items in it. -/
inductive IsItems : (first : Bool) → List Char → List (List Char) → Prop
  | close {first : Bool} {ws : List Char} (spaces : IsSpaces ws) : IsItems first (ws ++ [']']) []
  | item {first : Bool} {l v cs : List Char} {items : List (List Char)} (lead : IsLead first l)
      (value : IsValue v) (others : IsItems false cs items) :
      IsItems first (l ++ (v ++ cs)) (v :: items)

/-- What follows the opening brace of an object, or one of its members, and the members in it,
each the string that names it and its value. -/
inductive IsMembers : (first : Bool) → List Char → List (List Char × List Char) → Prop
  | close {first : Bool} {ws : List Char} (spaces : IsSpaces ws) :
      IsMembers first (ws ++ ['}']) []
  | member {first : Bool} {l k ws ws' v cs : List Char} {members : List (List Char × List Char)}
      (lead : IsLead first l) (key : IsInside k) (before : IsSpaces ws) (behind : IsSpaces ws')
      (value : IsValue v) (others : IsMembers false cs members) :
      IsMembers first (l ++ '"' :: (k ++ (ws ++ ':' :: (ws' ++ (v ++ cs)))))
        (('"' :: k, v) :: members)

end

/-- The text is an object with these members, under the names that their strings stand for. -/
def IsObject (text : List Char) (members : List (String × List Char)) : Prop :=
  ∃ before inside behind named, text = before ++ '{' :: (inside ++ behind) ∧
    IsSpaces before ∧ IsSpaces behind ∧ IsMembers true inside named ∧
    List.Forall₂ (fun n m => IsString n.1 m.1 ∧ n.2 = m.2) named members

/-- The text is an array of these items. -/
def IsArray (text : List Char) (items : List (List Char)) : Prop :=
  ∃ before inside behind, text = before ++ '[' :: (inside ++ behind) ∧
    IsSpaces before ∧ IsSpaces behind ∧ IsItems true inside items

theorem IsString.isValue {v : List Char} {text : String} (h : IsString v text) : IsValue v := by
  cases h with
  | quoted inside => exact .string inside.isInside

/-- Two members, written without white space. -/
theorem isObject_pair {text k l v w : List Char} {first second : String} (name : IsString k first)
    (value : IsValue v) (otherName : IsString l second) (otherValue : IsValue w)
    (whole : text = '{' :: (k ++ ':' :: (v ++ ',' :: (l ++ ':' :: (w ++ ['}']))))) :
    IsObject text [(first, v), (second, w)] := by
  have key := name
  have otherKey := otherName
  obtain ⟨inside⟩ := key
  obtain ⟨otherInside⟩ := otherKey
  refine ⟨[], _, [], _, ?_, isSpaces_nil, isSpaces_nil,
    .member (.first isSpaces_nil) inside.isInside isSpaces_nil isSpaces_nil value
      (.member (.comma isSpaces_nil isSpaces_nil) otherInside.isInside isSpaces_nil isSpaces_nil
        otherValue (.close isSpaces_nil)),
    .cons ⟨name, rfl⟩ (.cons ⟨otherName, rfl⟩ .nil)⟩
  simp [whole]

end Json
end StreamPipelines
