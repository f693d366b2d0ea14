import StreamPipelines.Json.Cursor

/-!
The parts of a JSON text that hold no other values: the three words, strings and numbers. Each
reader takes the place where the part begins and gives what it means and the place behind it.
-/

namespace StreamPipelines
namespace Json

/-- The rest of a word of which the first letter is known. -/
def expectWord : List Char → Cursor → Except Failure Cursor
  | [], c => .ok c
  | x :: word, c =>
      match c.rest with
      | [] => c.fail .endInValue
      | y :: _ => if x = y then expectWord word c.next else c.failNext .badWord

def hexQuad? (a b c d : Char) : Option Nat :=
  match Text.hexValue? a, Text.hexValue? b, Text.hexValue? c, Text.hexValue? d with
  | some i, some j, some k, some l => some (((i * 16 + j) * 16 + k) * 16 + l)
  | _, _, _, _ => none

def byteLength (cs : List Char) : Nat :=
  cs.foldl (fun n c => n + c.utf8Size) 0

/-- The failure of an escape whose four digits should begin here: with fewer than four bytes left
the text ends in the string, else the four bytes are not all digits. -/
def hexFailure {α : Type} (rest : List Char) (p : Position) : Except Failure α :=
  if byteLength rest < 4 then .error ⟨.malformed .endInString, p.afterAll rest⟩
  else .error ⟨.malformed .badEscape, p.afterBytes 4 rest⟩

def isHighSurrogate (n : Nat) : Bool :=
  0xd800 ≤ n && n ≤ 0xdbff

def isLowSurrogate (n : Nat) : Bool :=
  0xdc00 ≤ n && n ≤ 0xdfff

def pairedSurrogates (high low : Nat) : Char :=
  Char.ofNat ((high - 0xd800) * 0x400 + (low - 0xdc00) + 0x10000)

def simpleEscape? (c : Char) : Option Char :=
  if c = '"' then some '"'
  else if c = '\\' then some '\\'
  else if c = '/' then some '/'
  else if c = 'b' then some (Char.ofNat 0x08)
  else if c = 'f' then some (Char.ofNat 0x0c)
  else if c = 'n' then some '\n'
  else if c = 'r' then some '\r'
  else if c = 't' then some '\t'
  else none

/-- Where a second escape should follow the first half of a surrogate pair and does not. -/
def pairFailure {α : Type} (rest : List Char) (p : Position) : Except Failure α :=
  match rest with
  | '\\' :: 'u' :: rest => hexFailure rest (p.afterAll ['\\', 'u'])
  | '\\' :: [] => .error ⟨.malformed .endInString, p.after '\\'⟩
  | '\\' :: x :: _ => .error ⟨.malformed .hexEscapeEnd, (p.after '\\').skip x 1⟩
  | [] => .error ⟨.malformed .endInString, p⟩
  | x :: _ => .error ⟨.malformed .hexEscapeEnd, p.skip x 1⟩

/-- The characters of a string up to its closing quote, behind those of `read`, last one first. -/
def readStringFrom : List Char → Position → List Char → Except Failure (String × Cursor)
  | [], p, _ => .error ⟨.malformed .endInString, p⟩
  | '"' :: rest, p, read => .ok (String.ofList read.reverse, ⟨rest, p.after '"'⟩)
  | '\\' :: rest, p, read =>
      match rest with
      | [] => .error ⟨.malformed .endInString, p.after '\\'⟩
      | 'u' :: rest =>
          let start := p.afterAll ['\\', 'u']
          match rest with
          | a :: b :: c :: d :: more =>
              match hexQuad? a b c d with
              | none => hexFailure rest start
              | some n =>
                  let here := start.afterAll [a, b, c, d]
                  if isLowSurrogate n then .error ⟨.malformed .loneSurrogate, here⟩
                  else if isHighSurrogate n then
                    match more with
                    | '\\' :: 'u' :: e :: f :: g :: h :: beyond =>
                        match hexQuad? e f g h with
                        | none => pairFailure more here
                        | some m =>
                            let there := here.afterAll ['\\', 'u', e, f, g, h]
                            if isLowSurrogate m then
                              readStringFrom beyond there (pairedSurrogates n m :: read)
                            else .error ⟨.malformed .loneSurrogate, there⟩
                    | _ => pairFailure more here
                  else readStringFrom more here (Char.ofNat n :: read)
          | _ => hexFailure rest start
      | x :: rest =>
          match simpleEscape? x with
          | none => .error ⟨.malformed .badEscape, (p.after '\\').skip x 1⟩
          | some y => readStringFrom rest ((p.after '\\').after x) (y :: read)
  | x :: rest, p, read =>
      if x.toNat < 0x20 then .error ⟨.malformed .controlCharacter, p.after x⟩
      else readStringFrom rest (p.after x) (x :: read)

/-- A string whose opening quote is next. -/
def readString (c : Cursor) : Except Failure (String × Cursor) :=
  readStringFrom c.next.rest c.next.position []

/-- Passes over a string, of whose escapes only the shape is looked at. -/
def skipStringFrom : List Char → Position → Except Failure Cursor
  | [], p => .error ⟨.malformed .endInString, p⟩
  | '"' :: rest, p => .ok ⟨rest, p.after '"'⟩
  | '\\' :: rest, p =>
      match rest with
      | [] => .error ⟨.malformed .endInString, p.after '\\'⟩
      | 'u' :: rest =>
          let start := p.afterAll ['\\', 'u']
          match rest with
          | a :: b :: c :: d :: more =>
              match hexQuad? a b c d with
              | none => hexFailure rest start
              | some _ => skipStringFrom more (start.afterAll [a, b, c, d])
          | _ => hexFailure rest start
      | x :: rest =>
          match simpleEscape? x with
          | none => .error ⟨.malformed .badEscape, (p.after '\\').skip x 1⟩
          | some _ => skipStringFrom rest ((p.after '\\').after x)
  | x :: rest, p =>
      if x.toNat < 0x20 then .error ⟨.malformed .controlCharacter, p⟩
      else skipStringFrom rest (p.after x)

def skipString (c : Cursor) : Except Failure Cursor :=
  skipStringFrom c.next.rest c.next.position

def startsWithDigit (c : Cursor) : Bool :=
  match c.rest with
  | [] => false
  | x :: _ => (Text.digitValue? x).isSome

def startsWith (x : Char) (c : Cursor) : Bool :=
  match c.rest with
  | [] => false
  | y :: _ => x = y

def startsWithExponent (c : Cursor) : Bool :=
  startsWith 'e' c || startsWith 'E' c

/-- Digits that continue the number `n`, as long as it stays below `bound`: the number, how many
digits were taken, and the place behind them. -/
def takeDigitsFrom (bound : Nat) : Nat → Nat → List Char → Position → Nat × Nat × Cursor
  | n, taken, [], p => (n, taken, ⟨[], p⟩)
  | n, taken, x :: rest, p =>
      match Text.digitValue? x with
      | none => (n, taken, ⟨x :: rest, p⟩)
      | some d =>
          if n * 10 + d < bound then
            takeDigitsFrom bound (n * 10 + d) (taken + 1) rest (p.after x)
          else (n, taken, ⟨x :: rest, p⟩)

def takeDigits (bound : Nat) (n : Nat) (c : Cursor) : Nat × Nat × Cursor :=
  takeDigitsFrom bound n 0 c.rest c.position

def skipDigitsFrom : Nat → List Char → Position → Nat × Cursor
  | skipped, [], p => (skipped, ⟨[], p⟩)
  | skipped, x :: rest, p =>
      if (Text.digitValue? x).isSome then skipDigitsFrom (skipped + 1) rest (p.after x)
      else (skipped, ⟨x :: rest, p⟩)

def skipDigits (c : Cursor) : Nat × Cursor :=
  skipDigitsFrom 0 c.rest c.position

/-- The significand of a number is kept in a 64-bit word; digits beyond it only count. -/
def significandBound : Nat :=
  0x10000000000000000

/-- The digits of an exponent are kept in a signed 32-bit word. -/
def exponentBound : Nat :=
  0x80000000

def finishFloat (negative : Bool) (significand : Nat) (exponent : Int) (c : Cursor) :
    Except Failure (Number × Cursor) :=
  match Binary64.ofScientific? significand exponent with
  | none => c.fail .numberOutOfRange
  | some x => .ok (.float (x.withSign negative), c)

/-- The exponent of a number, whose letter is next. -/
def readExponent (negative : Bool) (significand : Nat) (exponent : Int) (c : Cursor) :
    Except Failure (Number × Cursor) :=
  let c := c.next
  let down := startsWith '-' c
  let c := if down || startsWith '+' c then c.next else c
  if c.rest.isEmpty then c.fail .endInValue
  else if !startsWithDigit c then c.failNext .badNumber
  else
    let (e, _, c) := takeDigits exponentBound 0 c
    if startsWithDigit c then
      if significand ≠ 0 ∧ !down then c.failNext .numberOutOfRange
      else .ok (.float (.zero negative), (skipDigits c).2)
    else finishFloat negative significand (if down then exponent - e else exponent + e) c

/-- The digits behind the point, which is next. -/
def readFraction (negative : Bool) (significand : Nat) (exponent : Int) (c : Cursor) :
    Except Failure (Number × Cursor) :=
  let (significand, taken, c) := takeDigits significandBound significand c.next
  let exponent := exponent - taken
  if startsWithDigit c then
    let c := (skipDigits c).2
    if startsWithExponent c then readExponent negative significand exponent c
    else finishFloat negative significand exponent c
  else if taken = 0 then
    if c.rest.isEmpty then c.fail .endInValue else c.failNext .badNumber
  else if startsWithExponent c then readExponent negative significand exponent c
  else finishFloat negative significand exponent c

/-- A number with neither point nor exponent is an integer if its range allows it; minus zero
is not an integer. -/
def finishInteger (negative : Bool) (n : Nat) (c : Cursor) : Except Failure (Number × Cursor) :=
  let i : Int := if negative then -n else n
  if h : IsWord i ∧ (negative → i < 0) then .ok (.int i h.1, c)
  else finishFloat negative n 0 c

/-- What follows the whole digits of a number. -/
def readAfterWhole (negative : Bool) (significand : Nat) (dropped : Nat) (c : Cursor) :
    Except Failure (Number × Cursor) :=
  if startsWith '.' c then readFraction negative significand dropped c
  else if startsWithExponent c then readExponent negative significand dropped c
  else if dropped = 0 then finishInteger negative significand c
  else finishFloat negative significand dropped c

/-- A number whose sign or first digit is next. A zero stands alone before the point. -/
def readNumber (c : Cursor) : Except Failure (Number × Cursor) :=
  let negative := startsWith '-' c
  let c := if negative then c.next else c
  if c.rest.isEmpty then c.fail .endInValue
  else if !startsWithDigit c then c.failNext .badNumber
  else if startsWith '0' c then
    let c := c.next
    if startsWithDigit c then c.failNext .badNumber else readAfterWhole negative 0 0 c
  else
    let (significand, _, c) := takeDigits significandBound 0 c
    let (dropped, c) := skipDigits c
    readAfterWhole negative significand dropped c

/-- Passes over at least one digit. -/
def skipSomeDigits (c : Cursor) : Except Failure Cursor :=
  if startsWithDigit c then .ok (skipDigits c).2 else c.failNext .badNumber

/-- Passes over a number of any size, whose sign or first digit is next. -/
def skipNumber (c : Cursor) : Except Failure Cursor := do
  let c := if startsWith '-' c then c.next else c
  let c ←
    if startsWith '0' c then
      if startsWithDigit c.next then c.next.failNext .badNumber else .ok c.next
    else skipSomeDigits c
  let c ← if startsWith '.' c then skipSomeDigits c.next else .ok c
  if startsWithExponent c then
    let c := c.next
    skipSomeDigits (if startsWith '+' c || startsWith '-' c then c.next else c)
  else .ok c

end Json
end StreamPipelines
