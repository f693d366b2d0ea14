import StreamPipelines.Url.Host

/-!
Web addresses, taken apart. User name, password, path segments, query and fragment are kept as
they are written, percent escapes included; the port is kept only where the scheme implies
another one.
-/

namespace StreamPipelines

inductive Url.Scheme where
  | http
  | https
  deriving DecidableEq

def Url.Scheme.chars : Url.Scheme → List Char
  | .http => ['h', 't', 't', 'p']
  | .https => ['h', 't', 't', 'p', 's']

def Url.Scheme.defaultPort : Url.Scheme → Nat
  | .http => 80
  | .https => 443

structure Url where
  scheme : Url.Scheme
  username : List Char
  password : Option (List Char)
  host : Url.Host
  port : Option Nat
  path : List (List Char)
  query : Option (List Char)
  fragment : Option (List Char)
  deriving DecidableEq

namespace Url

def userInfoChars (u : Url) : List Char :=
  match u.password with
  | none => if u.username.isEmpty then [] else u.username ++ ['@']
  | some password => u.username ++ ':' :: password ++ ['@']

def portChars (u : Url) : List Char :=
  match u.port with
  | none => []
  | some port => ':' :: Text.digits port

def pathChars (u : Url) : List Char :=
  u.path.flatMap ('/' :: ·)

def queryChars (u : Url) : List Char :=
  match u.query with
  | none => []
  | some query => '?' :: query

def fragmentChars (u : Url) : List Char :=
  match u.fragment with
  | none => []
  | some fragment => '#' :: fragment

def chars (u : Url) : List Char :=
  u.scheme.chars ++ ':' :: '/' :: '/' :: u.userInfoChars ++ u.host.chars ++ u.portChars ++
    u.pathChars ++ u.queryChars ++ u.fragmentChars

def text (u : Url) : String :=
  String.ofList u.chars

/-- What a request line names: path and query. -/
def target (u : Url) : String :=
  String.ofList (u.pathChars ++ u.queryChars)

end Url
end StreamPipelines
