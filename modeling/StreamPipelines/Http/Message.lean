import StreamPipelines.Call.Basic
import StreamPipelines.Text.Base64
import StreamPipelines.Url.Basic

/-!
Requests and responses as they go over HTTP.
-/

namespace StreamPipelines
namespace Http

structure Request where
  method : Method
  url : Url
  /-- Names are in lower case; a name may come more than once. -/
  headers : List (String × String)
  body : Option String
  deriving DecidableEq

/-- All values of a header, in order. -/
def Request.header (r : Request) (name : String) : List String :=
  (r.headers.filter (·.1 = name)).map (·.2)

/-- The final response that the HTTP library hands back for one request. A redirect with a Location
header is followed inside the library and is no response of its own. -/
inductive Response where
  | answer (status : Status) (body : List UInt8)
  /-- The connection is closed without an answer. -/
  | closed
  deriving DecidableEq

instance : Inhabited Response :=
  ⟨.closed⟩

/-- Leaves out the empty lines at the beginning. -/
def dropEmptyLines : List UInt8 → List UInt8
  | 0x0d :: 0x0a :: bytes | 0x0a :: bytes => dropEmptyLines bytes
  | bytes => bytes

/-- Whether a response may begin with these bytes: they name a version, or begin to name one. -/
def mayBeginResponse (bytes : List UInt8) : Bool :=
  let bytes := dropEmptyLines bytes
  ["HTTP/1.0", "HTTP/1.1"].any fun version =>
    (bytes.take version.length).isPrefixOf (Text.utf8 version)

/-- The header of basic authorization. -/
def basicAuthorization (username password : String) : String × String :=
  ("authorization", "Basic " ++ Text.base64 (Text.utf8 (username ++ ":" ++ password)))

end Http
end StreamPipelines
