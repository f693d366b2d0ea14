import StreamPipelines.Config
import StreamPipelines.Http.Message
import StreamPipelines.Url.UserInfo
import StreamPipelines.Wire.Read

/-!
The client turns what is asked of the service into HTTP requests, and HTTP responses into JSON.
Paths are taken below the base address, whatever they hold; absolute web addresses are taken as
they are. Credentials in an address are moved to the authorization of the request.
-/

namespace StreamPipelines

/-- Whether a path is a web address of its own. -/
def isAbsolutePath (path : List Char) : Bool :=
  "http://".toList.isPrefixOf path || "https://".toList.isPrefixOf path

/-- One slash parts the base address from the path. -/
def joinedChars (base : Url) (path : List Char) : List Char :=
  if isAbsolutePath path then path
  else Text.trimEndOf '/' base.chars ++ '/' :: Text.trimStartOf '/' path

def Url.qualify (base : Url) (path : String) : Except FetchError Url :=
  let joined := joinedChars base path.toList
  (Url.parseWeb joined).mapError (.badUrl (String.ofList joined))

structure Client where
  baseUrl : Url
  credentials : Option (String × String)
  timeoutSeconds : UInt64
  deriving DecidableEq

namespace Client

def ofConfig (c : Config) : Client :=
  ⟨c.baseUrl, c.credentials, c.timeoutSeconds⟩

/-- Requests that change something have to say who sends them. -/
def methodHeaders : Method → List (String × String)
  | .get => []
  | .post => [("x-requested-by", "pipeline-console")]

def credentialHeaders : Option (String × String) → List (String × String)
  | none => []
  | some (username, password) => [Http.basicAuthorization username password]

def userInfoHeaders : Option (String × Option String) → List (String × String)
  | none => []
  | some (username, password) => [Http.basicAuthorization username (password.getD "")]

def bodyHeaders : Option Json → List (String × String)
  | none => []
  | some _ => [("content-type", "application/json")]

/-- The HTTP request for `r` at the address `url`. -/
def requestAt (c : Client) (r : Request) (url : Url) : Http.Request where
  method := r.method
  url := if url.userInfo.isSome then url.withoutUserInfo else url
  headers :=
    userInfoHeaders url.userInfo ++ methodHeaders r.method ++ [("accept", "application/json")] ++
      credentialHeaders c.credentials ++ bodyHeaders r.body
  body := r.body.map Json.text

def prepare (c : Client) (r : Request) : Except FetchError Http.Request :=
  (c.baseUrl.qualify r.path).map (c.requestAt r)

end Client

/-- What the service says in a response of a bad status. -/
structure ErrorBody where
  message : String
  kind : Option String
  deriving DecidableEq

def ErrorBody.schema : Schema ErrorBody :=
  .record "ApiErrorBody"
    (.required "message" .text (.defaulted "type" (.option .text) none .nil))
    (fun (message, kind, _) => ⟨message, kind⟩)
    (fun b => (b.message, b.kind, ()))

/-- The longest body, in characters, that is taken for a message as a whole. -/
def longestDetail : Nat :=
  200

/-- The message in the body of a response of a bad status, or else the beginning of the body. -/
def errorDetail (body : String) : String :=
  match ErrorBody.schema.parse body with
  | .ok b => b.message
  | .error _ =>
      let detail := (Text.trim body).toList
      if detail.length ≤ longestDetail then String.ofList detail
      else String.ofList (detail.take longestDetail ++ ['…'])

/-- What the body of a response is worth; a blank one stands for null. -/
def readBody (status : Http.Status) (body : String) : Reply :=
  if !status.isSuccess then .error (.badStatus status (errorDetail body))
  else if (Text.trim body).isEmpty then .ok .null
  else (Json.parse body).mapError (.notJson ·.message)

/-- Why an interim response with `rest` behind its head comes to nothing. -/
def interimError (url : String) (rest : List UInt8) : TransferError :=
  if Http.mayBeginResponse rest then .closed url else .badVersion url

/-- What the response to a request is worth. An interim one leaves the client waiting for another,
which does not come. -/
def Http.Request.receive (r : Http.Request) : Http.Response → Reply
  | .closed => .error (.transfer (.closed r.url.text))
  | .answer status body =>
      if status.isInterim then .error (.transfer (interimError r.url.text body))
      else readBody status (if status.isBodiless then "" else Text.ofUtf8Lenient body)

end StreamPipelines
