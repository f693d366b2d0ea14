import StreamPipelines.Json.Structure

/-!
Reading a JSON text as a value. The members of an object end up in the order of their names, and
of a repeated name the last member stays. Arrays and objects may be nested to a limit; a value
that is only passed over may be nested without one.
-/

namespace StreamPipelines
namespace Json

/-- How many arrays and objects may be open inside one another. -/
def maxNesting : Nat :=
  127

/-- The members of an object whose opening brace was read, up to and with its closing brace. -/
def readTable (value : Cursor → Except Failure (Json × Cursor)) (c : Cursor) :
    Except Failure (Table Json × Cursor) := do
  let member (key : String) (t : Table Json) (c : Cursor) :
      Except Failure (Except Mismatch (Table Json) × Cursor) := do
    let (v, c) ← value (← readColon c)
    return (.ok (t.insert key v), c)
  let (table, c) ← readMembers member (c.rest.length + 1) true .empty c
  close table (closeObject c)

/-- The items of an array whose opening bracket was read, up to and with its closing bracket. -/
def readList {α : Type} (item : Cursor → Except Failure (α × Cursor)) (c : Cursor) :
    Except Failure (List α × Cursor) := do
  let (items, c) ← readItems item (c.rest.length + 1) true c
  close (.ok items) (closeList c)

/-- Reads the value whose first character is next, with `levels` of nesting left. -/
def readValue : (levels : Nat) → Cursor → Except Failure (Json × Cursor)
  | levels, c =>
    let c := c.skipSpace
    match c.rest with
    | [] => c.fail .endInValue
    | x :: _ =>
        if x = 'n' then return (.null, ← expectWord ['u', 'l', 'l'] c.next)
        else if x = 't' then return (.bool true, ← expectWord ['r', 'u', 'e'] c.next)
        else if x = 'f' then return (.bool false, ← expectWord ['a', 'l', 's', 'e'] c.next)
        else if x = '"' then do
          let (s, c) ← readString c
          return (.str s, c)
        else if x = '-' || (Text.digitValue? x).isSome then do
          let (n, c) ← readNumber c
          return (.num n, c)
        else if x = '[' then
          match levels with
          | 0 => c.failNext .tooDeep
          | levels + 1 => do
              let (items, c) ← readList (readValue levels) c.next
              return (.arr items, c)
        else if x = '{' then
          match levels with
          | 0 => c.failNext .tooDeep
          | levels + 1 => do
              let (table, c) ← readTable (readValue levels) c.next
              return (ofTable table, c)
        else c.failNext .noValue

/-- Passes over the value whose first character is next, with at most `depth` brackets open. -/
def skipValue : (depth : Nat) → Cursor → Except Failure Cursor
  | depth, c =>
    let c := c.skipSpace
    match c.rest with
    | [] => c.fail .endInValue
    | x :: _ =>
        if x = 'n' then expectWord ['u', 'l', 'l'] c.next
        else if x = 't' then expectWord ['r', 'u', 'e'] c.next
        else if x = 'f' then expectWord ['a', 'l', 's', 'e'] c.next
        else if x = '"' then skipString c
        else if x = '-' || (Text.digitValue? x).isSome then skipNumber c
        else if x = '[' then
          match depth with
          | 0 => c.failNext .tooDeep
          | depth + 1 => skipItems (skipValue depth) (c.rest.length + 1) true c.next
        else if x = '{' then
          match depth with
          | 0 => c.failNext .tooDeep
          | depth + 1 => skipMembers (skipValue depth) (c.rest.length + 1) true c.next
        else c.failNext .noValue
where
  skipItems (item : Cursor → Except Failure Cursor) :
      Nat → Bool → Cursor → Except Failure Cursor
    | 0, _, c => c.fail .endInList
    | fuel + 1, first, c =>
        let c := c.skipSpace
        match c.rest with
        | [] => c.fail .endInList
        | x :: _ =>
            if x = ']' then .ok c.next
            else if first then do skipItems item fuel false (← item c)
            else if x = ',' then do skipItems item fuel false (← item c.next)
            else c.failNext .noListComma
  skipMember (item : Cursor → Except Failure Cursor) (c : Cursor) : Except Failure Cursor :=
    let c := c.skipSpace
    match c.rest with
    | [] => c.fail .endInObject
    | x :: _ =>
        if x = '"' then do item (← readColon (← skipString c)) else c.failNext .keyNotString
  skipMembers (item : Cursor → Except Failure Cursor) :
      Nat → Bool → Cursor → Except Failure Cursor
    | 0, _, c => c.fail .endInObject
    | fuel + 1, first, c =>
        let c := c.skipSpace
        match c.rest with
        | [] => c.fail .endInObject
        | x :: _ =>
            if x = '}' then .ok c.next
            else if first then do skipMembers item fuel false (← skipMember item c)
            else if x = ',' then do skipMembers item fuel false (← skipMember item c.next)
            else c.failNext .noObjectComma

/-- Passes over a value of any depth. -/
def skipAnyValue (c : Cursor) : Except Failure Cursor :=
  skipValue (c.rest.length + 1) c

/-- The value that a text is, with at most `levels` brackets open. -/
def parseNested (levels : Nat) (s : String) : Except Failure Json := do
  finish (← readValue levels (.ofText s))

def parse (s : String) : Except Failure Json :=
  parseNested maxNesting s

end Json
end StreamPipelines
