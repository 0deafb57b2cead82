import FlagHost.Server.Lifecycle
import FlagHost.Server.SelfTest
import FlagHost.Settings

/-!
# The program

The program reads its settings, starts a server, and either tests it and ends or serves until it is
told to stop. What it meets on the way is given: the variables and files of its environment, the
address at which it comes to listen, what the flag service replies, whether it can reach itself, and
how long it takes to answer itself. The last depends on the configuration that its client has got,
and on the machine.
-/

namespace FlagHost

structure Surroundings where
  environment : String → Option String
  file : String → Except MachineFailure Bytes

structure Network where
  /-- The address at which a server with the settings comes to listen. -/
  bind : ServerSettings → Except Error Address
  /-- The replies of the flag service while the start of the client is waited for. -/
  replies : List Reply := []
  /-- Whether the server can be reached at its address. -/
  isReachable : Bool := true
  /-- How many milliseconds a server with the client takes for the answer to a request. It is a
  matter of the machine, and of the flags that the service has listed. -/
  takes : Option Client → Request → Nat := fun _ _ => 0
  /-- The texts that are taken for addresses of a service. -/
  isAddress : String → Bool := fun text => (Url.parse? text).isSome

namespace CommandLine

def testedFlag : String := "flag1"

def settingsFile : String := "./wrapper.json"

def load (around : Surroundings) : Except Error Settings := do
  let path := (around.environment "WRAPPER_CONFIG").getD settingsFile
  let settings ← Settings.ofFile (around.file path)
  settings.overridden around.environment

/-- Where the log goes; it is wanted even if there are no settings. -/
def logger (settings : Except Error Settings) : Logger :=
  match settings with
  | .ok s => s.logger
  | .error _ => .standard

/-- The settings of the client, with the addresses of the environment where it has them. -/
def clientSettings (around : Surroundings) : ClientSettings :=
  let base : ClientSettings := {}
  { base with
    configUrl := (around.environment "FF_CONFIG_URL").getD base.configUrl
    eventUrl := (around.environment "FF_EVENT_URL").getD base.eventUrl }

structure Started where
  server : Server Client
  isReady : Bool

/-- The start of a server waits for its client, and the replies are those that come in that time. It
is not an error if the client has not become ready. -/
def start (settings : ServerSettings) (network : Network) : Except Error Started := do
  let made := (Client.startWith network.isAddress settings.apiKey settings.client).map
    (·.advance network.replies)
  let (result, server) := Server.start (network.bind settings) made {}
  let isReady ← result
  return ⟨server, isReady⟩

def localUrl (server : Server Client) (settings : Settings) : Url where
  scheme := "http"
  host := some "127.0.0.1".toList
  port := some ((server.address.map (·.port)).getD settings.port.toNat)
  path := .segments []

/-- Tests a server with the client that it has when the test begins. A server that cannot be reached
gives no answer, and one that is busy gives it too late. -/
def test (server : Server Client) (settings : Settings) (network : Network) : Except Error Unit :=
  (selfTest (localUrl server settings) testedFlag).against
    (if network.isReachable then
      SelfTest.inTime (network.takes server.client) (replying server.client)
    else fun _ => .broken)

/-- How a run comes out: it ends with a result, its server being stopped, or it serves. -/
inductive Outcome where
  | ended (result : Except Error Unit) (server : Option (Server Client))
  | serving (server : Server Client)

def run (settings : Settings) (client : ClientSettings) (network : Network) : Outcome :=
  match settings.toServer client with
  | .error e => .ended (.error e) none
  | .ok serverSettings =>
    match start serverSettings network with
    | .error e => .ended (.error e) none
    | .ok started =>
      if settings.selfTest then
        .ended (test started.server settings network) (some started.server.stop.2)
      else .serving started.server

/-- Whether a run waits in vain for its client: a server could listen and a client could be made,
but the client has no result yet. -/
def waitsForClient (settings : Settings) (client : ClientSettings) (network : Network) : Bool :=
  match settings.toServer client with
  | .error _ => false
  | .ok serverSettings =>
    match start serverSettings network with
    | .error _ => false
    | .ok started => started.server.client.any (·.polling.readiness.isNone)

def exitCode (result : Except Error Unit) : Nat :=
  match result with
  | .ok () => 0
  | .error _ => 1

end CommandLine

end FlagHost
