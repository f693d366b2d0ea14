import StreamPipelines.Endpoint
import StreamPipelines.Http.Status
import StreamPipelines.Json.Mismatch
import StreamPipelines.Url.Host

/-!
Why a call of the service fails, and the words for it. A fetch fails when there is no reply, when
the reply has the wrong status, or when its body is not JSON; a call also fails when the body
is JSON of the wrong form.
-/

namespace StreamPipelines

/-- Why an exchange over HTTP gave nothing that could be used. -/
inductive TransferError where
  /-- The status counts as an error before the body is looked at. -/
  | status (status : Http.Status) (url : String)
  /-- The connection was closed before a final reply came. -/
  | closed (url : String)
  /-- What came where a reply was due does not name a version of HTTP. -/
  | badVersion (url : String)
  deriving DecidableEq

namespace TransferError

def message : TransferError → String
  | .status s url =>
      "HTTP status " ++ (if s.isClientError then "client" else "server") ++ " error (" ++
        s.text ++ ") for url (" ++ url ++ ")"
  | .closed url | .badVersion url => "error sending request for url (" ++ url ++ ")"

/-- The causes behind the error, nearest first. -/
def causes : TransferError → List String
  | .status _ _ => []
  | .closed _ =>
      ["client error (SendRequest)", "connection closed before message completed"]
  | .badVersion _ => ["client error (SendRequest)", "invalid HTTP version parsed"]

end TransferError

inductive FetchError where
  | transfer (cause : TransferError)
  | badStatus (status : Http.Status) (detail : String)
  | badUrl (url : String) (cause : Url.ParseError)
  | notJson (detail : String)
  deriving DecidableEq

namespace FetchError

def message : FetchError → String
  | .transfer cause => "http error: " ++ cause.message
  | .badStatus status detail =>
      if detail.isEmpty then status.text else status.text ++ ": " ++ detail
  | .badUrl url cause => "invalid url " ++ url ++ ": " ++ cause.message
  | .notJson detail => "response is not valid json: " ++ detail

/-- The status of the reply, if it came to one. -/
def status? : FetchError → Option Http.Status
  | .transfer (.status s _) => some s
  | .badStatus s _ => some s
  | _ => none

def causes : FetchError → List String
  | .transfer cause => cause.message :: cause.causes
  | .badUrl _ cause => [cause.message]
  | .badStatus _ _ | .notJson _ => []

end FetchError

inductive CallError where
  | fetch (cause : FetchError)
  | wrongForm (endpoint : Endpoint) (cause : Json.Mismatch)
  deriving DecidableEq

namespace CallError

def message : CallError → String
  | .fetch cause => cause.message
  | .wrongForm endpoint cause =>
      "unexpected response from " ++ endpoint.path ++ ": " ++ cause.message

def causes : CallError → List String
  | .fetch cause => cause.causes
  | .wrongForm _ cause => [cause.message]

end CallError
end StreamPipelines
