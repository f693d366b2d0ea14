import StreamPipelines.Http.Message
import StreamPipelines.Text.Lines

/-!
Requests and responses as bytes, in version 1.0 of HTTP: a head of lines, an empty line, and the
body, which goes on to the end of the connection.
-/

namespace StreamPipelines
namespace Http

def lineEnd : String :=
  "\r\n"

def headerLine (header : String × String) : String :=
  header.1 ++ ": " ++ header.2 ++ lineEnd

/-- The host that a request names, with the port unless the scheme implies it. -/
def hostHeader (url : Url) : String × String :=
  ("host", String.ofList (url.host.chars ++ url.portChars))

def lengthHeader (body : List UInt8) : String × String :=
  ("content-length", Text.natText body.length)

namespace Request

def bodyBytes (r : Request) : List UInt8 :=
  Text.utf8 (r.body.getD "")

def head (r : Request) : String :=
  r.method.text ++ " " ++ r.url.target ++ " HTTP/1.0" ++ lineEnd ++
    String.join ((hostHeader r.url :: lengthHeader r.bodyBytes :: r.headers).map headerLine) ++
    lineEnd

def bytes (r : Request) : List UInt8 :=
  Text.utf8 r.head ++ r.bodyBytes

end Request

/-- The status that the first line of a response names. -/
def readStatus (line : String) : Option Status :=
  match line.splitOn " " with
  | _ :: code :: _ =>
      match code.toList with
      | [a, b, c] => (Text.readDigits 1000 0 [a, b, c]).map Status.mk
      | _ => none
  | _ => none

/-- The head of a response, up to the empty line, and its body. -/
def splitHead : List UInt8 → Option (List UInt8 × List UInt8)
  | 0x0d :: 0x0a :: 0x0d :: 0x0a :: body => some ([], body)
  | b :: bytes => (splitHead bytes).map fun (head, body) => (b :: head, body)
  | [] => none

/-- What has come when the connection ends; without a whole head it is no answer. -/
def Response.ofBytes (bytes : List UInt8) : Response :=
  match splitHead bytes with
  | none => .closed
  | some (head, body) =>
      match (Text.lines (Text.ofUtf8Lenient head)).head?.bind readStatus with
      | none => .closed
      | some status => .answer status body

end Http
end StreamPipelines
