import Std.Async.DNS
import Std.Async.Select
import Std.Async.TCP
import Std.Async.Timer
import StreamPipelines.CommandLine.Program
import StreamPipelines.Http.Transfer
import StreamPipelines.Settings.File

/-!
The program `pipeline-console`. It carries the requests of a dialogue over connections without
encryption, and follows no redirects; a server that cannot be reached or that takes too long counts
as one that closes the connection.
-/

namespace StreamPipelines

def socketAddress (port : UInt16) : Std.Net.IPAddr → Std.Net.SocketAddress
  | .v4 address => .v4 ⟨address, port⟩
  | .v6 address => .v6 ⟨address, port⟩

def ipv4Address (address : UInt32) : Std.Net.IPAddr :=
  .v4 (.ofParts (address >>> 24).toUInt8 (address >>> 16).toUInt8 (address >>> 8).toUInt8
    address.toUInt8)

/-- The addresses of a host; a name is looked up. -/
def resolve : Url.Host → Std.Async.Async (Array Std.Net.IPAddr)
  | .domain name => Std.Async.DNS.getAddrInfo name ""
  | .ipv4 address => return #[ipv4Address address]
  | .ipv6 pieces => return #[.v6 ⟨pieces⟩]

/-- All bytes up to the end of the connection. -/
partial def receiveAll (socket : Std.Async.TCP.Socket.Client) (received : ByteArray) :
    Std.Async.Async ByteArray := do
  match ← socket.recv? 65536 with
  | some bytes => receiveAll socket (received ++ bytes)
  | none => return received

def transfer (r : Http.Request) : Std.Async.Async Http.Response := do
  let port := (r.url.port.getD r.url.scheme.defaultPort).toUInt16
  match (← resolve r.url.host)[0]? with
  | none => return .closed
  | some address =>
      let socket ← Std.Async.TCP.Socket.Client.mk
      socket.connect (socketAddress port address)
      socket.send ⟨r.bytes.toArray⟩
      return .ofBytes (← receiveAll socket .empty).toList

/-- The response to a request, within `seconds` seconds. -/
def exchange (seconds : UInt64) (r : Http.Request) : IO Http.Response := do
  if r.url.scheme = .https then return .closed
  try
    (Std.Async.Async.race (transfer r) do
      Std.Async.sleep (.ofNat (seconds.toNat * 1000))
      return .closed).block
  catch _ => return .closed

/-- Carries a dialogue through. -/
def Dialogue.carry {α : Type} (client : Client) : Dialogue α → IO α
  | .done a => return a
  | .tell notice rest => do
      IO.eprint notice.text
      rest.carry client
  | .ask r next =>
      match client.prepare r with
      | .error cause => (next (.error cause)).carry client
      | .ok sent => do
          let response ← exchange client.timeoutSeconds sent
          (next (sent.receive response)).carry client

def readEnvironment : IO Environment := do
  let values ← Config.variableNames.mapM fun name => do
    return (← IO.getEnv name).map fun value => (name, Text.utf8 value)
  return .ofList (values.filterMap id)

/-- The settings file of the working directory. -/
def readSettingsFile : IO (Option String) := do
  try
    return some (← IO.FS.readFile ".env")
  catch _ => return none

namespace CommandLine

def Start.run : Start → IO Ending
  | .misused => return .misused
  | .failed failure => return .finished [] (.failed failure)
  | .running client dialogue => return .finished [] (← dialogue.carry client)

end CommandLine
end StreamPipelines

open StreamPipelines in
def main (arguments : List String) : IO UInt32 := do
  let env := (← readEnvironment).withFile (← readSettingsFile)
  let ending ← (CommandLine.start arguments env).run
  IO.print ending.output
  IO.eprint ending.errors
  return ending.exitStatus.toUInt32
