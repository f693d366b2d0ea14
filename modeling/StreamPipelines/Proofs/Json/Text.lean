import StreamPipelines.Proofs.Binary64.Layout
import StreamPipelines.Proofs.Json.Token

/-!
The compact text of a JSON value can be read in one way only. The first character tells the kind
of a value. A string ends at its first quote without an escape, a number at the first character
that no number has, and a bracket closes what it belongs to. So values with one text are equal.
-/

namespace StreamPipelines
namespace Json

open Text (IsDecimal digits)

theorem hexQuad?_control {c : Char} (control : c.toNat < 0x20) :
    hexQuad? '0' '0' (Text.hexDigit (c.toNat / 16)) (Text.hexDigit c.toNat) = some c.toNat := by
  have zero : Text.hexValue? '0' = some 0 := by decide
  rw [hexQuad?, zero, Text.hexValue?_hexDigit, Text.hexValue?_hexDigit]
  simp only [Option.some.injEq]
  omega

/-- A control character is written as the unit that it is. -/
theorem isInsideOf_control {c : Char} (control : c.toNat < 0x20) {cs text : List Char}
    (others : IsInsideOf cs text) :
    IsInsideOf (['\\', 'u', '0', '0', Text.hexDigit (c.toNat / 16), Text.hexDigit c.toNat] ++ cs)
      (c :: text) := by
  have notLow : isLowSurrogate c.toNat = false := by
    simp only [isLowSurrogate, Bool.and_eq_false_iff, decide_eq_false_iff_not]
    omega
  have notHigh : isHighSurrogate c.toNat = false := by
    simp only [isHighSurrogate, Bool.and_eq_false_iff, decide_eq_false_iff_not]
    omega
  have unit := IsInsideOf.unit (hexQuad?_control control) notHigh notLow others
  rw [Char.ofNat_toNat] at unit
  exact unit

/-- The escape of a character stands for that character. -/
theorem isInsideOf_escapedChar (c : Char) {cs text : List Char} (others : IsInsideOf cs text) :
    IsInsideOf (escapedChar c ++ cs) (c :: text) := by
  have ofNat {n : Nat} (code : c.toNat = n) : c = Char.ofNat n := by
    rw [← code, Char.ofNat_toNat]
  unfold escapedChar
  by_cases quote : c = '"'
  · rw [if_pos quote]
    exact .short (by rw [quote]; decide) others
  rw [if_neg quote]
  by_cases slash : c = '\\'
  · rw [if_pos slash]
    exact .short (by rw [slash]; decide) others
  rw [if_neg slash]
  split_ifs with backspace feed newline carriage tab control
  · exact .short (by rw [ofNat backspace]; decide) others
  · exact .short (by rw [ofNat feed]; decide) others
  · exact .short (by rw [newline]; decide) others
  · exact .short (by rw [carriage]; decide) others
  · exact .short (by rw [tab]; decide) others
  · exact isInsideOf_control control others
  · exact .plain ⟨quote, slash, Nat.le_of_not_lt control⟩ others

/-- The text of a string is a string of the grammar, and stands for that string. -/
theorem isString_stringChars (s : String) : IsString (stringChars s) s := by
  have inside (text : List Char) : IsInsideOf (text.flatMap escapedChar ++ ['"']) text := by
    induction text with
    | nil => exact .close
    | cons c text ih =>
        rw [List.flatMap_cons, List.append_assoc]
        exact isInsideOf_escapedChar c ih
  have quoted := IsString.quoted (inside s.toList)
  rw [String.ofList_toList] at quoted
  exact quoted

/-- A string is read back from its text, with whatever follows. -/
theorem stringChars_append_inj {s t : String} {u v : List Char}
    (same : stringChars s ++ u = stringChars t ++ v) : s = t ∧ u = v := by
  obtain ⟨c, readS, leftS⟩ :=
    readString_complete (c := .ofChars (stringChars s ++ u)) (isString_stringChars s) rfl
  obtain ⟨d, readT, leftT⟩ :=
    readString_complete (c := .ofChars (stringChars t ++ v)) (isString_stringChars t) rfl
  rw [same, readT, Except.ok.injEq, Prod.mk.injEq] at readS
  obtain ⟨text, cursor⟩ := readS
  exact ⟨text.symm, by rw [← leftS, ← leftT, cursor]⟩

def IsNumberChar (c : Char) : Prop :=
  IsDecimal c ∨ c ∈ ['.', 'e', '-', '+']

instance (c : Char) : Decidable (IsNumberChar c) :=
  inferInstanceAs (Decidable (_ ∨ _))

namespace Number

def isNegative : Number → Bool
  | .int i _ => decide (i < 0)
  | .float x => x.negative

/-- The text without the sign. -/
def unsigned : Number → List Char
  | .int i _ => digits i.natAbs
  | .float x => numberLayout.unsigned x

theorem toList_text (n : Number) : n.text.toList = Text.signed n.isNegative n.unsigned := by
  cases n with
  | int i isWord => exact Text.toList_intText i
  | float x => exact String.toList_ofList.trans (numberLayout.render_eq x)

theorem beginsWithDigit_unsigned (n : Number) : Text.BeginsWithDigit n.unsigned := by
  cases n with
  | int i isWord => exact Text.beginsWithDigit_digits _
  | float x => exact numberLayout.beginsWithDigit_unsigned x

theorem isNumberChar_of_mem {n : Number} {c : Char} (mem : c ∈ n.text.toList) :
    IsNumberChar c := by
  rw [toList_text] at mem
  obtain rfl | mem := Text.mem_signed mem
  · decide
  · cases n with
    | int i isWord => exact .inl (Text.isDecimal_of_mem_digits mem)
    | float x => exact Binary64.Layout.mem_unsigned mem

/-- A whole number and a floating-point number have different texts. -/
theorem digits_ne_unsigned (n : Nat) (x : Binary64) : digits n ≠ numberLayout.unsigned x := by
  intro same
  obtain ⟨c, mem, mark⟩ := numberLayout.exists_mem_unsigned x
  rw [← same] at mem
  have decimal := Text.isDecimal_of_mem_digits mem
  obtain rfl | rfl := mark <;> exact absurd decimal (by decide)

theorem text_inj {m n : Number} (same : m.text = n.text) : m = n := by
  have same := congrArg String.toList same
  cases m with
  | float x =>
      cases n with
      | float y =>
          rw [text, text, String.toList_ofList, String.toList_ofList] at same
          rw [Binary64.Layout.render_inj same]
      | int j isWord =>
          rw [toList_text, toList_text] at same
          obtain ⟨-, size⟩ :=
            Text.signed_inj (beginsWithDigit_unsigned _) (beginsWithDigit_unsigned _) same
          exact absurd size.symm (digits_ne_unsigned _ x)
  | int i isWord =>
      rw [toList_text, toList_text] at same
      obtain ⟨sign, size⟩ :=
        Text.signed_inj (beginsWithDigit_unsigned _) (beginsWithDigit_unsigned _) same
      cases n with
      | float y => exact absurd size (digits_ne_unsigned _ y)
      | int j isWord =>
          have sign : i < 0 ↔ j < 0 := decide_eq_decide.mp sign
          have size : i.natAbs = j.natAbs := Text.digits_inj size
          have value : i = j := by omega
          cases value
          rfl

/-- A number in front of something that no number goes on with is read back from its text. -/
theorem text_append_inj {m n : Number} {u v : List Char} (hu : ∀ c ∈ u.head?, ¬IsNumberChar c)
    (hv : ∀ c ∈ v.head?, ¬IsNumberChar c)
    (same : m.text.toList ++ u = n.text.toList ++ v) : m = n ∧ u = v := by
  have front (k : Number) {w : List Char} (hw : ∀ c ∈ w.head?, ¬IsNumberChar c) :
      (k.text.toList ++ w).takeWhile (decide <| IsNumberChar ·) = k.text.toList := by
    rw [List.takeWhile_append_of_pos fun c mem => decide_eq_true (isNumberChar_of_mem mem)]
    cases w with
    | nil => rw [List.takeWhile_nil, List.append_nil]
    | cons c w =>
        have stop := hw c rfl
        rw [List.takeWhile_cons_of_neg (by simp [stop]), List.append_nil]
  have texts : m.text.toList = n.text.toList := by rw [← front m hu, same, front n hv]
  rw [texts] at same
  exact ⟨text_inj (String.toList_inj.mp texts), List.append_cancel_left same⟩

end Number

/-- What the first character of a text tells about the value. -/
inductive Kind where
  | null
  | bool
  | number
  | string
  | list
  | object
  deriving DecidableEq

def Kind.ofChar? (c : Char) : Option Kind :=
  if c = 'n' then some .null
  else if c = 't' ∨ c = 'f' then some .bool
  else if c = '"' then some .string
  else if c = '[' then some .list
  else if c = '{' then some .object
  else if c = '-' ∨ IsDecimal c then some .number
  else none

def kind : Json → Kind
  | .null => .null
  | .bool _ => .bool
  | .num _ => .number
  | .str _ => .string
  | .arr _ => .list
  | .obj _ => .object

theorem Kind.ofChar?_digit {c : Char} (h : IsDecimal c) : ofChar? c = some .number :=
  Text.of_ascii (P := fun c => IsDecimal c → ofChar? c = some .number) (by decide)
    (Nat.lt_of_le_of_lt h.toNat_le.2 (by decide)) h

theorem exists_chars_cons (v : Json) :
    ∃ c cs, v.chars = c :: cs ∧ Kind.ofChar? c = some v.kind := by
  cases v with
  | null => exact ⟨'n', _, rfl, rfl⟩
  | bool b =>
      cases b with
      | false => exact ⟨'f', _, rfl, rfl⟩
      | true => exact ⟨'t', _, rfl, rfl⟩
  | num n =>
      obtain ⟨c, cs, unsigned, digit⟩ := n.beginsWithDigit_unsigned
      rw [chars, Number.toList_text, Text.signed, unsigned]
      cases n.isNegative with
      | false => exact ⟨c, cs, rfl, Kind.ofChar?_digit digit⟩
      | true => exact ⟨'-', c :: cs, rfl, rfl⟩
  | str s => exact ⟨'"', _, rfl, rfl⟩
  | arr vs =>
      cases vs with
      | nil => exact ⟨'[', _, rfl, rfl⟩
      | cons v vs => exact ⟨'[', _, rfl, rfl⟩
  | obj ms =>
      cases ms with
      | nil => exact ⟨'{', _, rfl, rfl⟩
      | cons m ms => exact ⟨'{', _, rfl, rfl⟩

theorem kind_eq_of_chars_append {v w : Json} {r s : List Char}
    (same : v.chars ++ r = w.chars ++ s) : v.kind = w.kind := by
  obtain ⟨c, cs, vText, vKind⟩ := exists_chars_cons v
  obtain ⟨d, ds, wText, wKind⟩ := exists_chars_cons w
  rw [vText, wText] at same
  rw [(List.cons.inj same).1, wKind] at vKind
  exact (Option.some.inj vKind).symm

theorem chars_append_ne_bracket (v : Json) (r s : List Char) : v.chars ++ r ≠ ']' :: s := by
  intro same
  obtain ⟨c, cs, vText, vKind⟩ := exists_chars_cons v
  rw [vText] at same
  have noKind : Kind.ofChar? ']' = none := by decide
  rw [(List.cons.inj same).1, noKind] at vKind
  cases vKind

/-- What may follow a value: nothing, or a mark of the array or object around it. -/
def Closes (r : List Char) : Prop :=
  ∀ c ∈ r.head?, ¬IsNumberChar c

theorem closes_itemChars (vs : List Json) (r : List Char) : Closes (itemChars vs ++ r) := by
  cases vs <;> rintro c ⟨⟩ <;> decide

theorem closes_memberChars (ms : List (String × Json)) (r : List Char) :
    Closes (memberChars ms ++ r) := by
  rcases ms with _ | ⟨⟨k, v⟩, ms⟩ <;> rintro c ⟨⟩ <;> decide

/-- Behind the opening bracket the first item is like the others, but for the comma. -/
theorem itemChars_of_arr {vs ws : List Json} {r s : List Char}
    (same : (arr vs).chars ++ r = (arr ws).chars ++ s) :
    itemChars vs ++ r = itemChars ws ++ s := by
  cases vs with
  | nil =>
      cases ws with
      | nil => exact (List.cons.inj same).2
      | cons w ws =>
          have inside : ']' :: r = w.chars ++ itemChars ws ++ s := (List.cons.inj same).2
          rw [List.append_assoc] at inside
          exact absurd inside.symm (chars_append_ne_bracket w _ r)
  | cons v vs =>
      cases ws with
      | nil =>
          have inside : v.chars ++ itemChars vs ++ r = ']' :: s := (List.cons.inj same).2
          rw [List.append_assoc] at inside
          exact absurd inside (chars_append_ne_bracket v _ s)
      | cons w ws => exact congrArg (',' :: ·) (List.cons.inj same).2

theorem memberChars_of_obj {ms ns : List (String × Json)} {r s : List Char}
    (same : (obj ms).chars ++ r = (obj ns).chars ++ s) :
    memberChars ms ++ r = memberChars ns ++ s := by
  cases ms with
  | nil =>
      cases ns with
      | nil => exact (List.cons.inj same).2
      | cons n ns => cases same
  | cons m ms =>
      cases ns with
      | nil => cases same
      | cons n ns => exact congrArg (',' :: ·) (List.cons.inj same).2

mutual

/-- A value is read back from its text, with what follows. -/
theorem chars_append_inj : (v w : Json) → {r s : List Char} → Closes r → Closes s →
    v.chars ++ r = w.chars ++ s → v = w ∧ r = s
  | .null, w, r, s, _, _, same => by
      cases w with
      | null => exact ⟨rfl, List.append_cancel_left same⟩
      | _ => cases kind_eq_of_chars_append same
  | .bool b, w, r, s, _, _, same => by
      cases w with
      | bool c =>
          cases b <;> cases c
          · exact ⟨rfl, List.append_cancel_left same⟩
          · cases same
          · cases same
          · exact ⟨rfl, List.append_cancel_left same⟩
      | _ => cases kind_eq_of_chars_append same
  | .num m, w, r, s, hr, hs, same => by
      cases w with
      | num n => exact (Number.text_append_inj hr hs same).imp_left (congrArg num)
      | _ => cases kind_eq_of_chars_append same
  | .str a, w, r, s, _, _, same => by
      cases w with
      | str b => exact (stringChars_append_inj same).imp_left (congrArg str)
      | _ => cases kind_eq_of_chars_append same
  | .arr vs, w, r, s, _, _, same => by
      cases w with
      | arr ws => exact (itemChars_append_inj vs ws (itemChars_of_arr same)).imp_left (congrArg arr)
      | _ => cases kind_eq_of_chars_append same
  | .obj ms, w, r, s, _, _, same => by
      cases w with
      | obj ns =>
          exact (memberChars_append_inj ms ns (memberChars_of_obj same)).imp_left (congrArg obj)
      | _ => cases kind_eq_of_chars_append same

theorem itemChars_append_inj : (vs ws : List Json) → {r s : List Char} →
    itemChars vs ++ r = itemChars ws ++ s → vs = ws ∧ r = s
  | [], [], r, s, same => ⟨rfl, (List.cons.inj same).2⟩
  | [], _ :: _, _, _, same => by cases same
  | _ :: _, [], _, _, same => by cases same
  | v :: vs, w :: ws, r, s, same => by
      have same : v.chars ++ (itemChars vs ++ r) = w.chars ++ (itemChars ws ++ s) := by
        simpa [itemChars] using same
      obtain ⟨rfl, others⟩ :=
        chars_append_inj v w (closes_itemChars vs r) (closes_itemChars ws s) same
      exact (itemChars_append_inj vs ws others).imp_left (congrArg (v :: ·))

theorem memberChars_append_inj : (ms ns : List (String × Json)) → {r s : List Char} →
    memberChars ms ++ r = memberChars ns ++ s → ms = ns ∧ r = s
  | [], [], r, s, same => ⟨rfl, (List.cons.inj same).2⟩
  | [], (_, _) :: _, _, _, same => by cases same
  | (_, _) :: _, [], _, _, same => by cases same
  | (k, v) :: ms, (l, w) :: ns, r, s, same => by
      have same : stringChars k ++ (':' :: v.chars ++ (memberChars ms ++ r)) =
          stringChars l ++ (':' :: w.chars ++ (memberChars ns ++ s)) := by
        simpa [memberChars] using same
      obtain ⟨rfl, values⟩ := stringChars_append_inj same
      obtain ⟨rfl, others⟩ := chars_append_inj v w (closes_memberChars ms r)
        (closes_memberChars ns s) (List.cons.inj values).2
      exact (memberChars_append_inj ms ns others).imp_left (congrArg ((k, v) :: ·))

end

/-- Values with one text are equal. -/
theorem text_inj {v w : Json} (same : v.text = w.text) : v = w := by
  have chars : v.chars ++ [] = w.chars ++ [] :=
    congrArg (· ++ []) (String.ofList_injective same)
  have atEnd : Closes [] := fun c none => absurd none (Option.not_mem_none c)
  exact (chars_append_inj v w atEnd atEnd chars).1

theorem text_ne_empty (v : Json) : v.text ≠ "" := by
  intro empty
  obtain ⟨c, cs, vText, -⟩ := exists_chars_cons v
  have nil : v.chars = [] := String.ofList_injective empty
  rw [nil] at vText
  cases vText

end Json
end StreamPipelines
