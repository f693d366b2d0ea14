import StreamPipelines.Text.Blank
import StreamPipelines.Url.Basic
import StreamPipelines.Url.Path

/-!
Reading the text of a URL, step by step: control characters and spaces at the ends are dropped,
tabs and line ends are dropped everywhere; then come the scheme, the authority up to the first
slash, question mark or number sign, the path, the query and the fragment. Of a URL that is not a
web address only the scheme is kept, but its authority has to be in order.
-/

namespace StreamPipelines
namespace Url

/-- What a text is the URL of. -/
inductive Location where
  | web (url : Url)
  | other (scheme : String)
  deriving DecidableEq

def isOuterBlank (c : Char) : Bool :=
  c.toNat ≤ 0x20

def isDropped (c : Char) : Bool :=
  c = '\t' || c = '\n' || c = '\r'

/-- The characters that count. -/
def clean (cs : List Char) : List Char :=
  (Text.stripChars isOuterBlank cs).filter fun c => !isDropped c

def isSchemeChar (c : Char) : Bool :=
  c.isAlphanum || c = '+' || c = '-' || c = '.'

/-- The scheme in lower case, and the text behind its colon. -/
def splitScheme (cs : List Char) : Option (List Char × List Char) :=
  match cs with
  | [] => none
  | c :: _ =>
      if c.isAlpha then
        match cs.dropWhile isSchemeChar with
        | ':' :: rest => some ((cs.takeWhile isSchemeChar).map Char.toLower, rest)
        | _ => none
      else none

/-- A character that ends the authority of a web address. -/
def endsAuthority (c : Char) : Bool :=
  isSlash c || c = '?' || c = '#'

/-- The parts before and behind the last `@`. -/
def splitUserInfo (cs : List Char) : Option (List Char × List Char) :=
  if cs.contains '@' then
    let behind := (cs.reverse.takeWhile (· != '@')).reverse
    some (cs.take (cs.length - behind.length - 1), behind)
  else none

/-- User name and password, parted by the first colon; an empty password counts as none. -/
def readUserInfo (cs : List Char) : List Char × Option (List Char) :=
  let username := cs.takeWhile (· != ':')
  let password := (cs.dropWhile (· != ':')).drop 1
  (percentEncode inUserInfoSet username,
    if password.isEmpty then none else some (percentEncode inUserInfoSet password))

/-- The text of the host and, if a colon follows, that of the port; a colon between brackets
belongs to the host. -/
def splitHost : (inBrackets : Bool) → List Char → List Char × Option (List Char)
  | _, [] => ([], none)
  | inBrackets, c :: cs =>
      if c = ':' ∧ !inBrackets then ([], some cs)
      else
        let inBrackets := if c = '[' then true else if c = ']' then false else inBrackets
        let (host, port) := splitHost inBrackets cs
        (c :: host, port)

/-- A port as it is written, or none if no digit is there. -/
def readPort (cs : List Char) : Except ParseError (Option Nat) :=
  if cs.isEmpty then .ok none
  else
    match Text.readDigits 65536 0 cs with
    | some port => .ok (some port)
    | none => .error .badPort

/-- A web address behind its scheme and colon. Slashes of both kinds before the authority are
passed over, however many there are. -/
def readWeb (scheme : Scheme) (defaultPort : Nat) (cs : List Char) : Except ParseError Url := do
  let cs := cs.dropWhile isSlash
  let authority := cs.takeWhile (!endsAuthority ·)
  let cs := cs.dropWhile (!endsAuthority ·)
  let (userInfo, server) := (splitUserInfo authority).getD ([], authority)
  let (username, password) := readUserInfo userInfo
  let (hostText, portText) := splitHost false server
  if hostText.isEmpty then throw .emptyHost
  let host ← Host.ofChars hostText
  let port ← readPort (portText.getD [])
  let path := cs.takeWhile fun c => c != '?' && c != '#'
  let cs := cs.dropWhile fun c => c != '?' && c != '#'
  let query :=
    match cs with
    | '?' :: cs => some (percentEncode inQuerySet (cs.takeWhile (· != '#')))
    | _ => none
  let fragment :=
    match cs.dropWhile (· != '#') with
    | '#' :: cs => some (percentEncode inFragmentSet cs)
    | _ => none
  return {
    scheme, username, password, host
    port := port.filter (· != defaultPort)
    path := pathSegments path
    query, fragment }

/-- Schemes that name their hosts as web addresses do. -/
def likeWeb : List (List Char) :=
  ["ws", "wss", "ftp"].map String.toList

/-- An authority behind two slashes, under a scheme with no rules of its own. -/
def checkAuthority (cs : List Char) : Except ParseError Unit := do
  let ends (c : Char) : Bool := c = '/' || c = '?' || c = '#'
  let authority := cs.takeWhile (!ends ·)
  let behind := cs.dropWhile (!ends ·)
  let split := splitUserInfo authority
  let (userInfo, server) := split.getD ([], authority)
  if split.isSome && userInfo.isEmpty && server.isEmpty && !behind.isEmpty then throw .emptyHost
  let (hostText, portText) := splitHost false server
  Host.checkOpaque hostText
  if hostText.isEmpty && portText.isSome then throw .emptyHost
  discard (readPort ((portText.getD []).takeWhile (· != '\\')))
  let (username, password) := readUserInfo userInfo
  if hostText.isEmpty && (!username.isEmpty || password.isSome) then throw .emptyHost

/-- A file may name a host behind two slashes of either kind; a drive letter is none. -/
def checkFile (cs : List Char) : Except ParseError Unit :=
  match cs with
  | c :: d :: cs =>
      if isSlash c && isSlash d then
        let hostText := cs.takeWhile (!endsAuthority ·)
        if hostText.isEmpty || isDriveLetter hostText then .ok ()
        else (Host.ofChars hostText).map fun _ => ()
      else .ok ()
  | _ => .ok ()

def checkOther (scheme : List Char) (cs : List Char) : Except ParseError Unit :=
  if likeWeb.contains scheme then (readWeb .http 0 cs).map fun _ => ()
  else if scheme = "file".toList then checkFile cs
  else
    match cs with
    | '/' :: '/' :: cs => checkAuthority cs
    | _ => .ok ()

def parseChars (cs : List Char) : Except ParseError Location :=
  match splitScheme (clean cs) with
  | none => .error .noScheme
  | some (scheme, rest) =>
      if scheme = Scheme.http.chars then
        (readWeb .http Scheme.http.defaultPort rest).map .web
      else if scheme = Scheme.https.chars then
        (readWeb .https Scheme.https.defaultPort rest).map .web
      else (checkOther scheme rest).map fun _ => .other (String.ofList scheme)

/-- The web address that a text is. -/
def parseWeb (cs : List Char) : Except ParseError Url :=
  match parseChars cs with
  | .error cause => .error cause
  | .ok (.web url) => .ok url
  | .ok (.other _) => .error .noScheme

def parse (s : String) : Except ParseError Location :=
  parseChars s.toList

end Url
end StreamPipelines
