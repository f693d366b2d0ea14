import StreamPipelines.Config
import StreamPipelines.Connection.Basic

/-!
The arguments of the command line: options of the program, then a command with options of its own.
An option has a value, behind an equals sign or as the next argument; a value that is an argument
of its own does not begin with a dash, unless it is one dash alone. Options come in any order, and
most of them at most once.
-/

namespace StreamPipelines
namespace CommandLine

inductive Command where
  | list
  | assignStream (a : StreamAssignment)
  | assignPipeline (a : PipelineAssignment)
  | simulate (stream : String) (title : Option String) (index messageId : String)
  deriving DecidableEq

/-- What is given for the configuration. -/
structure Options where
  url : Option String
  username : Option String
  password : Option String
  timeoutSeconds : Option UInt64
  deriving DecidableEq

structure Arguments where
  options : Options
  command : Command
  deriving DecidableEq

/-- The values of options, in their order. -/
abbrev Values : Type :=
  List (String × String)

/-- An option's name, with the value behind the equals sign if there is one. -/
def splitOption (argument : String) : Option (String × Option String) :=
  match argument.toList with
  | '-' :: '-' :: c :: cs =>
      let name := String.ofList ((c :: cs).takeWhile (· != '='))
      match (c :: cs).dropWhile (· != '=') with
      | '=' :: value => some (name, some (String.ofList value))
      | _ => some (name, none)
  | _ => none

/-- Whether an argument can be the value of the option before it. -/
def isValue (argument : String) : Bool :=
  match argument.toList with
  | '-' :: _ :: _ => false
  | _ => true

/-- The options at the front, each of which has to be one of `known`, and the arguments behind
them. -/
def readValues (known : List String) : List String → Option (Values × List String)
  | [] => some ([], [])
  | argument :: rest =>
      match splitOption argument with
      | none => some ([], argument :: rest)
      | some (name, attached) =>
          if !known.contains name then none
          else
            match attached, rest with
            | some value, rest =>
                (readValues known rest).map fun (values, rest) => ((name, value) :: values, rest)
            | none, value :: rest =>
                if isValue value then
                  (readValues known rest).map fun (values, rest) =>
                    ((name, value) :: values, rest)
                else none
            | none, [] => none

namespace Values

def all (vs : Values) (name : String) : List String :=
  (vs.filter (·.1 = name)).map (·.2)

/-- The value of an option that may be given once; fails if it is given twice. -/
def atMostOne (vs : Values) (name : String) : Option (Option String) :=
  match vs.all name with
  | [] => some none
  | [value] => some (some value)
  | _ => none

/-- The value of an option that has to be given once. -/
def one (vs : Values) (name : String) : Option String :=
  match vs.all name with
  | [value] => some value
  | _ => none

end Values

/-- The options of a command that has nothing behind them, two dashes excepted. -/
def readLast (known : List String) (arguments : List String) : Option Values :=
  match readValues known arguments with
  | some (values, []) | some (values, ["--"]) => some values
  | _ => none

def readConnections : List String → Option Command
  | "list" :: rest => do
      let _ ← readLast [] rest
      return .list
  | "to-stream" :: rest => do
      let values ← readLast ["stream", "pipeline"] rest
      return .assignStream ⟨← values.one "stream", values.all "pipeline"⟩
  | "to-pipeline" :: rest => do
      let values ← readLast ["pipeline", "stream"] rest
      return .assignPipeline ⟨← values.one "pipeline", values.all "stream"⟩
  | _ => none

def readCommand : List String → Option Command
  | "connections" :: rest => readConnections rest
  | "simulate" :: rest => do
      let values ← readLast ["stream", "stream-title", "index", "message-id"] rest
      return .simulate (← values.one "stream") (← values.atMostOne "stream-title")
        (← values.one "index") (← values.one "message-id")
  | _ => none

/-- A time-out has to be a number if it is given. -/
def readSeconds : Option String → Option (Option UInt64)
  | none => some none
  | some s => (Text.readWord? s).map some

/-- The arguments, unless they break the rules. -/
def Arguments.parse (arguments : List String) : Option Arguments := do
  let (values, rest) ← readValues ["url", "username", "password", "timeout-secs"] arguments
  let options : Options := {
    url := ← values.atMostOne "url"
    username := ← values.atMostOne "username"
    password := ← values.atMostOne "password"
    timeoutSeconds := ← readSeconds (← values.atMostOne "timeout-secs") }
  return ⟨options, ← readCommand rest⟩

/-- A user name that is given goes with the password that is given, or else with the one that is
configured. -/
def Options.addCredentials (o : Options) (c : Config) : Config :=
  match o.username, o.password with
  | some username, password =>
      c.withCredentials username ((password.or c.password).getD "")
  | none, some password => { c with password := some password }
  | none, none => c

def Options.addTimeout (o : Options) (c : Config) : Config :=
  match o.timeoutSeconds with
  | some seconds => c.withTimeout seconds
  | none => c

def Options.config (o : Options) (env : Environment) : Except ConfigError Config :=
  (Config.ofEnvironment env o.url).map fun c => o.addTimeout (o.addCredentials c)

end CommandLine
end StreamPipelines
