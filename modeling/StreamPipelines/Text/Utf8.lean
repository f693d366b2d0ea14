/-!
Texts as UTF-8 bytes. Reading bytes takes one unit at a time: a character, or the longest run of
bytes that begins a character and then breaks off. Strict reading refuses such runs, lenient
reading puts the replacement character U+FFFD in the place of each.
-/

namespace StreamPipelines
namespace Text

def utf8 (s : String) : List UInt8 :=
  s.toList.flatMap String.utf8EncodeChar

/-- The number of bytes that follow the lead byte `b`, and the range of the first of them.
The range excludes overlong forms, surrogates and code points above U+10FFFF. -/
def leadByte (b : UInt8) : Option (Nat × Nat × Nat) :=
  let n := b.toNat
  if 0xc2 ≤ n ∧ n ≤ 0xdf then some (1, 0x80, 0xbf)
  else if n = 0xe0 then some (2, 0xa0, 0xbf)
  else if n = 0xed then some (2, 0x80, 0x9f)
  else if 0xe1 ≤ n ∧ n ≤ 0xef then some (2, 0x80, 0xbf)
  else if n = 0xf0 then some (3, 0x90, 0xbf)
  else if 0xf1 ≤ n ∧ n ≤ 0xf3 then some (3, 0x80, 0xbf)
  else if n = 0xf4 then some (3, 0x80, 0x8f)
  else none

/-- Reads `count` continuation bytes into the code point `n`, the first between `low` and `high`.
The result is the code point, if all are there, and the bytes behind those that were taken. -/
def readContinuation : (count low high n : Nat) → List UInt8 → Option Nat × List UInt8
  | 0, _, _, n, bs => (some n, bs)
  | _ + 1, _, _, _, [] => (none, [])
  | count + 1, low, high, n, b :: bs =>
      if low ≤ b.toNat ∧ b.toNat ≤ high then
        readContinuation count 0x80 0xbf (n * 64 + b.toNat % 64) bs
      else (none, b :: bs)

theorem length_readContinuation (count low high n : Nat) (bs : List UInt8) :
    (readContinuation count low high n bs).2.length ≤ bs.length := by
  induction count generalizing low high n bs with
  | zero => simp [readContinuation]
  | succ count ih =>
      cases bs with
      | nil => simp [readContinuation]
      | cons b bs =>
          simp only [readContinuation]
          split
          · exact Nat.le_trans (ih ..) (by simp)
          · simp

/-- Reads the unit that begins with the byte `b`: a character, or nothing for a broken run. -/
def readUnit (b : UInt8) (bs : List UInt8) : Option Char × List UInt8 :=
  if b.toNat < 0x80 then (some (Char.ofNat b.toNat), bs)
  else
    match leadByte b with
    | none => (none, bs)
    | some (count, low, high) =>
        let (code, rest) :=
          readContinuation count low high (b.toNat % (1 <<< (6 - count))) bs
        (code.map Char.ofNat, rest)

theorem length_readUnit (b : UInt8) (bs : List UInt8) :
    (readUnit b bs).2.length ≤ bs.length := by
  simp only [readUnit]
  split
  · simp
  · split
    · simp
    · exact length_readContinuation ..

/-- The units of a byte sequence, in order. -/
def units : List UInt8 → List (Option Char)
  | [] => []
  | b :: bs => (readUnit b bs).1 :: units (readUnit b bs).2
termination_by bs => bs.length
decreasing_by exact Nat.lt_succ_of_le (length_readUnit b bs)

/-- Strict reading: the bytes must be UTF-8 throughout. -/
def ofUtf8? (bs : List UInt8) : Option String :=
  ((units bs).mapM id).map String.ofList

/-- Lenient reading. -/
def ofUtf8Lenient (bs : List UInt8) : String :=
  String.ofList ((units bs).map (·.getD (Char.ofNat 0xfffd)))

end Text
end StreamPipelines
