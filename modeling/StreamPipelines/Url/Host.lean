import StreamPipelines.Text.Decimal
import StreamPipelines.Url.Label
import StreamPipelines.Url.PercentEncoding

/-!
The host of a URL: a domain name, an IPv4 address or an IPv6 address. Names are compared without
regard to case and therefore kept in lower case; a name whose last label is a number is an IPv4
address, in up to four parts of decimal, octal or hexadecimal digits. An IPv6 address is written
with its longest run of zeros left out. Names outside ASCII are accepted in their ASCII form only.
-/

namespace StreamPipelines
namespace Url

/-- Why a text is not a URL. -/
inductive ParseError where
  | noScheme
  | emptyHost
  | badPort
  | badIpv4
  | badIpv6
  | badDomain
  | badHostCharacter
  deriving DecidableEq

def ParseError.message : ParseError → String
  | .noScheme => "relative URL without a base"
  | .emptyHost => "empty host"
  | .badPort => "invalid port number"
  | .badIpv4 => "invalid IPv4 address"
  | .badIpv6 => "invalid IPv6 address"
  | .badDomain => "invalid international domain name"
  | .badHostCharacter => "invalid domain character"

inductive Host where
  | domain (name : String)
  | ipv4 (address : UInt32)
  | ipv6 (pieces : Vector UInt16 8)
  deriving DecidableEq

namespace Host

/-- A part of an IPv4 address: octal behind a zero, hexadecimal behind `0x`, else decimal. -/
def readIpv4Part : List Char → Option Nat
  | [] => none
  | '0' :: 'x' :: cs | '0' :: 'X' :: cs => readRadix 16 cs
  | '0' :: c :: cs => readRadix 8 (c :: cs)
  | cs => readRadix 10 cs
where
  readRadix (radix : Nat) (cs : List Char) : Option Nat :=
    cs.foldlM (fun n c =>
      match Text.hexValue? c with
      | some d => if d < radix then some (n * radix + d) else none
      | none => none) 0

/-- The labels of a name, without the empty one behind a final dot. -/
def labels (cs : List Char) : List (List Char) :=
  let parts := cs.splitOn '.'
  if parts.getLast? = some [] then parts.dropLast else parts

/-- The last label is a number, so the name has to be an IPv4 address. -/
def endsInNumber (cs : List Char) : Bool :=
  match (labels cs).getLast? with
  | none => false
  | some last =>
      (!last.isEmpty && last.all fun c => (Text.digitValue? c).isSome) ||
        (readIpv4Part last).isSome

/-- The last part fills the bytes that the parts before it leave, one of them each. -/
def joinIpv4 : (room : Nat) → List Nat → Option Nat
  | _, [] => none
  | room, [last] => if last < 1 <<< (8 * room) then some last else none
  | room, n :: more =>
      if n < 256 ∧ 1 < room then
        (joinIpv4 (room - 1) more).map fun rest => (n <<< (8 * (room - 1))) + rest
      else none

def readIpv4 (cs : List Char) : Option UInt32 :=
  ((labels cs).mapM readIpv4Part).bind fun parts => (joinIpv4 4 parts).map UInt32.ofNat

def ipv4Chars (address : UInt32) : List Char :=
  let n := address.toNat
  Text.digits (n >>> 24) ++ '.' :: Text.digits ((n >>> 16) % 256) ++
    '.' :: Text.digits ((n >>> 8) % 256) ++ '.' :: Text.digits (n % 256)

/-- Up to `room` hexadecimal digits that continue `n`. -/
def takeHex : (room : Nat) → (n : Nat) → List Char → Nat × List Char
  | 0, n, cs => (n, cs)
  | _ + 1, n, [] => (n, [])
  | room + 1, n, c :: cs =>
      match Text.hexValue? c with
      | some d => takeHex room (n * 16 + d) cs
      | none => (n, c :: cs)

/-- A byte in decimal without a leading zero. -/
def readOctet (cs : List Char) : Option Nat :=
  match cs with
  | [] => none
  | '0' :: _ :: _ => none
  | cs => Text.readDigits 256 0 cs

/-- The two last pieces of an IPv6 address, written as an IPv4 address. -/
def readEmbedded (cs : List Char) : Option (List UInt16) :=
  match (cs.splitOn '.').mapM readOctet with
  | some [a, b, c, d] => some [UInt16.ofNat (a * 256 + b), UInt16.ofNat (c * 256 + d)]
  | _ => none

/-- The pieces of an IPv6 address before and behind the double colon. -/
structure Ipv6Pieces where
  before : List UInt16
  behind : Option (List UInt16)

def Ipv6Pieces.push (p : Ipv6Pieces) (more : List UInt16) : Ipv6Pieces :=
  match p.behind with
  | none => { p with before := p.before ++ more }
  | some behind => { p with behind := some (behind ++ more) }

/-- How many pieces are known; the double colon stands for one at least. -/
def Ipv6Pieces.count (p : Ipv6Pieces) : Nat :=
  match p.behind with
  | none => p.before.length
  | some behind => p.before.length + 1 + behind.length

/-- The pieces of the text `cs` behind those of `p`. -/
def readPieces : (fuel : Nat) → Ipv6Pieces → List Char → Option Ipv6Pieces
  | 0, _, _ => none
  | fuel + 1, p, cs =>
      match cs with
      | [] => some p
      | ':' :: cs =>
          match p.behind with
          | none => if p.count < 8 then readPieces fuel { p with behind := some [] } cs else none
          | some _ => none
      | cs =>
          if p.count < 8 then
            let (n, rest) := takeHex 4 0 cs
            match rest with
            | [] => some (p.push [UInt16.ofNat n])
            | '.' :: _ =>
                if rest.length < cs.length ∧ p.count ≤ 6 then (readEmbedded cs).map p.push
                else none
            | ':' :: c :: rest => readPieces fuel (p.push [UInt16.ofNat n]) (c :: rest)
            | _ => none
          else none

def Ipv6Pieces.toList (p : Ipv6Pieces) : List UInt16 :=
  match p.behind with
  | none => p.before
  | some behind =>
      p.before ++ List.replicate (8 - p.before.length - behind.length) 0 ++ behind

def readIpv6 (cs : List Char) : Option (Vector UInt16 8) := do
  let p ←
    match cs with
    | ':' :: ':' :: rest => readPieces (cs.length + 1) ⟨[], some []⟩ rest
    | ':' :: _ | [] | [_] => none
    | cs => readPieces (cs.length + 1) ⟨[], none⟩ cs
  let pieces := p.toList
  if h : pieces.length = 8 then some ⟨pieces.toArray, by simpa using h⟩ else none

/-- How many zeros a list begins with. -/
def leadingZeros (pieces : List UInt16) : Nat :=
  (pieces.takeWhile (· == 0)).length

/-- The place and length of the longest run of zeros, the first one of equally long ones. -/
def longestZeros : List UInt16 → Nat × Nat
  | [] => (0, 0)
  | piece :: pieces =>
      let here := leadingZeros (piece :: pieces)
      let (start, length) := longestZeros pieces
      if length ≤ here then (0, here) else (start + 1, length)

def piecesChars (pieces : List UInt16) : List Char :=
  [':'].intercalate (pieces.map fun piece => Text.hexDigits piece.toNat)

def ipv6Chars (pieces : Vector UInt16 8) : List Char :=
  let all := pieces.toList
  let (start, length) := longestZeros all
  if length < 2 then piecesChars all
  else piecesChars (all.take start) ++ ':' :: ':' :: piecesChars (all.drop (start + length))

/-- The characters that a domain name must not have, besides those outside printable ASCII. -/
def forbiddenInDomain (c : Char) : Bool :=
  "%#/:<>?@[\\]^|".toList.contains c

/-- A name that is not an address, once its percent escapes are resolved. A name with characters
outside ASCII is refused; it is to be given in its ASCII form. -/
def readDomain (cs : List Char) : Except ParseError (List Char) :=
  let bytes := percentDecode (cs.flatMap String.utf8EncodeChar)
  let name := bytes.map fun b => (Char.ofNat b.toNat).toLower
  if bytes.any (fun b => b.toNat ≤ 0x20 || 0x7f ≤ b.toNat) || name.any forbiddenInDomain then
    .error .badDomain
  else if isDomainName name then .ok name
  else .error .badDomain

/-- An address between brackets. -/
def readBracketed (cs : List Char) : Except ParseError Host :=
  if cs.getLast? = some ']' then
    match readIpv6 (cs.drop 1).dropLast with
    | some pieces => .ok (.ipv6 pieces)
    | none => .error .badIpv6
  else .error .badIpv6

def ofChars (cs : List Char) : Except ParseError Host :=
  if cs.head? = some '[' then readBracketed cs
  else
    match readDomain cs with
    | .error e => .error e
    | .ok name =>
        if name.isEmpty then .error .emptyHost
        else if endsInNumber name then
          match readIpv4 name with
          | some address => .ok (.ipv4 address)
          | none => .error .badIpv4
        else .ok (.domain (String.ofList name))

def chars : Host → List Char
  | .domain name => name.toList
  | .ipv4 address => ipv4Chars address
  | .ipv6 pieces => '[' :: ipv6Chars pieces ++ [']']

/-- What a host must not have under a scheme that gives hosts no meaning of their own. -/
def forbiddenInOpaque (c : Char) : Bool :=
  c.toNat = 0 || "\t\n\r #/:<>?@[\\]^|".toList.contains c

/-- Whether such a scheme accepts the host. -/
def checkOpaque (cs : List Char) : Except ParseError Unit :=
  if cs.head? = some '[' then (readBracketed cs).map fun _ => ()
  else if cs.any forbiddenInOpaque then .error .badHostCharacter
  else .ok ()

end Host
end Url
end StreamPipelines
