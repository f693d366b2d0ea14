import StreamPipelines.Json.Token

/-!
The punctuation of arrays and objects, for readers that know what the items and members are to
become. A loop takes the reader of one item; its fuel, the length of the text that is left, is
never used up, because every item takes a character at least.
-/

namespace StreamPipelines
namespace Json

/-- The place of the next item, or `none` before the closing bracket. -/
def nextItem (first : Bool) (c : Cursor) : Except Failure (Option Cursor × Cursor) :=
  let c := c.skipSpace
  match c.rest with
  | [] => c.fail .endInList
  | x :: _ =>
      if x = ']' then .ok (none, c)
      else if first then .ok (some c, c)
      else if x = ',' then
        let c := c.next.skipSpace
        match c.rest with
        | [] => c.fail .endInValue
        | y :: _ => if y = ']' then c.failNext .trailingComma else .ok (some c, c)
      else c.failNext .noListComma

/-- The items of an array up to its closing bracket, which is left. -/
def readItems {α : Type} (item : Cursor → Except Failure (α × Cursor)) :
    Nat → Bool → Cursor → Except Failure (List α × Cursor)
  | 0, _, c => c.fail .endInList
  | fuel + 1, first, c => do
      match ← nextItem first c with
      | (none, c) => .ok ([], c)
      | (some c, _) =>
          let (a, c) ← item c
          let (as, c) ← readItems item fuel false c
          .ok (a :: as, c)

/-- The place of the quote of the next key, or `none` before the closing brace. -/
def nextKey (first : Bool) (c : Cursor) : Except Failure (Option Cursor × Cursor) :=
  let c := c.skipSpace
  match c.rest with
  | [] => c.fail .endInObject
  | x :: _ =>
      if x = '}' then .ok (none, c)
      else if first then
        if x = '"' then .ok (some c, c) else c.failNext .keyNotString
      else if x = ',' then
        let c := c.next.skipSpace
        match c.rest with
        | [] => c.fail .endInValue
        | y :: _ =>
            if y = '"' then .ok (some c, c)
            else if y = '}' then c.failNext .trailingComma
            else c.failNext .keyNotString
      else c.failNext .noObjectComma

def readColon (c : Cursor) : Except Failure Cursor :=
  let c := c.skipSpace
  match c.rest with
  | [] => c.fail .endInObject
  | x :: _ => if x = ':' then .ok c.next else c.failNext .noColon

/-- The members of an object up to its closing brace, which is left. What was made of the members
so far goes into the reader of the next one, which is called behind the key and may give up
because of the key. -/
def readMembers {σ : Type}
    (member : String → σ → Cursor → Except Failure (Except Mismatch σ × Cursor)) :
    Nat → Bool → σ → Cursor → Except Failure (Except Mismatch σ × Cursor)
  | 0, _, _, c => c.fail .endInObject
  | fuel + 1, first, s, c => do
      match ← nextKey first c with
      | (none, c) => .ok (.ok s, c)
      | (some c, _) =>
          let (key, c) ← readString c
          match ← member key s c with
          | (.error cause, c) => .ok (.error cause, c)
          | (.ok s, c) => readMembers member fuel false s c

/-- Looks for the closing bracket: the place behind what was passed over, and the failure if
something else stands there. -/
def closeList (c : Cursor) : Cursor × Option Malformed :=
  let c := c.skipSpace
  match c.rest with
  | [] => (c, some .endInList)
  | x :: _ =>
      if x = ']' then (c.next, none)
      else if x = ',' then
        let c := c.next.skipSpace
        (c, some (if startsWith ']' c then .trailingComma else .trailingCharacters))
      else (c, some .trailingCharacters)

def closeObject (c : Cursor) : Cursor × Option Malformed :=
  let c := c.skipSpace
  match c.rest with
  | [] => (c, some .endInObject)
  | x :: _ =>
      if x = '}' then (c.next, none)
      else if x = ',' then (c, some .trailingComma)
      else (c, some .trailingCharacters)

/-- Ends an array or object whose content was read. A mismatch of the content is reported behind
the closing bracket; without one the bracket has to be there. -/
def close {α : Type} (content : Except Mismatch α) (closing : Cursor × Option Malformed) :
    Except Failure (α × Cursor) :=
  match content, closing with
  | .error cause, (c, _) => c.mismatch cause
  | .ok _, (c, some cause) => c.failNext cause
  | .ok a, (c, none) => .ok (a, c)

/-- The end of the whole text: only white space may follow. -/
def finish {α : Type} (read : α × Cursor) : Except Failure α :=
  let c := read.2.skipSpace
  if c.rest.isEmpty then .ok read.1 else c.failNext .trailingCharacters

end Json
end StreamPipelines
