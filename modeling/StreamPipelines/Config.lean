import StreamPipelines.Environment
import StreamPipelines.Text.Decimal
import StreamPipelines.Text.Quoted
import StreamPipelines.Url.Parser

/-!
The configuration: where the service is, with which credentials it is called, and how long a reply
may take. What is not given is read from the environment, and has a default there.
-/

namespace StreamPipelines

inductive ConfigError where
  | badUrl (raw : String) (cause : Url.ParseError)
  | unsupportedScheme (raw scheme : String)
  deriving DecidableEq

def ConfigError.message : ConfigError → String
  | .badUrl raw cause =>
      "invalid configuration: base url " ++ Text.quoted raw ++ ": " ++ cause.message
  | .unsupportedScheme raw scheme =>
      "invalid configuration: base url " ++ Text.quoted raw ++ ": unsupported scheme " ++
        Text.quoted scheme

structure Config where
  baseUrl : Url
  username : Option String
  password : Option String
  timeoutSeconds : UInt64
  deriving DecidableEq

namespace Config

/-- The variables that are read. -/
def variableNames : List String :=
  ["GRAYLOG_URL", "GRAYLOG_USERNAME", "GRAYLOG_PASSWORD", "GRAYLOG_HTTP_TIMEOUT_SECS"]

def defaultBaseUrl : String :=
  "http://127.0.0.1:9000/api"

def defaultTimeout : UInt64 :=
  30

/-- A time-out is at least 5 and at most 300 seconds. -/
def clampTimeout (seconds : UInt64) : UInt64 :=
  if seconds < 5 then 5 else if 300 < seconds then 300 else seconds

/-- The base address has to be a web address; white space around it does not count. A host with
characters outside ASCII is to be given in its ASCII form, since other names are not translated. -/
def parseBaseUrl (raw : String) : Except ConfigError Url :=
  match Url.parse (Text.trim raw) with
  | .error cause => .error (.badUrl raw cause)
  | .ok (.other scheme) => .error (.unsupportedScheme raw scheme)
  | .ok (.web url) => .ok url

def ofBaseUrl (raw : String) : Except ConfigError Config :=
  (parseBaseUrl raw).map fun baseUrl => ⟨baseUrl, none, none, defaultTimeout⟩

/-- A time-out that is not a number counts as unset; white space around it does not count. -/
def readTimeout (raw : Option String) : UInt64 :=
  clampTimeout ((raw.bind fun s => Text.readWord? (Text.trim s)).getD defaultTimeout)

/-- An address that is given is taken instead of the one in the environment. -/
def ofEnvironment (env : Environment) (given : Option String) : Except ConfigError Config :=
  (ofBaseUrl (given.getD ((env.read "GRAYLOG_URL").getD defaultBaseUrl))).map fun config =>
    { config with
      username := env.read "GRAYLOG_USERNAME"
      password := env.read "GRAYLOG_PASSWORD"
      timeoutSeconds := readTimeout (env.read "GRAYLOG_HTTP_TIMEOUT_SECS") }

def withCredentials (c : Config) (username password : String) : Config :=
  { c with username := some username, password := some password }

def withTimeout (c : Config) (seconds : UInt64) : Config :=
  { c with timeoutSeconds := clampTimeout seconds }

/-- There are credentials as soon as there is a user name. -/
def credentials (c : Config) : Option (String × String) :=
  c.username.map fun username => (username, c.password.getD "")

end Config
end StreamPipelines
