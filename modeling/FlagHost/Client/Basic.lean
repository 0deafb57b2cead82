import FlagHost.Bucket
import FlagHost.Client.FlagClient
import FlagHost.Client.Poller
import FlagHost.Evaluation

/-!
# The client of the flag service

A client evaluates flags with the latest configuration that its poller has published.
-/

namespace FlagHost

/-- The settings of a client. Times are in milliseconds. -/
structure ClientSettings where
  configUrl : String := "https://config.ff.harness.io/api/1.0"
  eventUrl : String := "https://events.ff.harness.io/api/1.0"
  pollInterval : Nat := 60000
  streamEnabled : Bool := true
  connectionTimeout : Nat := 10000
  readTimeout : Nat := 30000
deriving DecidableEq, Repr

def Configuration.variation? (c : Configuration) (key : String) (target : Target)
    (kind : Flag.Kind) : Option Variation :=
  Evaluator.evaluate ⟨c, percentBucket⟩ key target kind

/-- The value of a flag for a target, or else the value given: there may be no configuration, no
such flag of the kind, no variation, or a variation whose text is no value of the kind. -/
def Store.value (store : Store) (kind : Flag.Kind) (key : String) (target : Target)
    (default : kind.Value) : kind.Value :=
  let found : Option kind.Value := do
    let configuration ← store.snapshot
    let variation ← configuration.variation? key target kind
    kind.read? variation.value
  found.getD default

structure Client where
  polling : Polling

namespace Client

/-- A client whose poller begins to fetch, if both addresses are some. The streaming that may be
asked for is not there, so polling it is in any case. Which texts are addresses is left open. -/
def startWith (isAddress : String → Bool) (apiKey : String) (settings : ClientSettings) :
    Except Error Client :=
  if Unicode.isBlank apiKey then .error .missingSdkKey
  else if !isAddress settings.configUrl || !isAddress settings.eventUrl then .error .invalidUrl
  else .ok ⟨.start { apiKey, baseUrl := settings.configUrl }⟩

def start : String → ClientSettings → Except Error Client :=
  startWith fun text => (Url.parse? text).isSome

def store (c : Client) : Store := c.polling.store

def isInitialized (c : Client) : Bool := c.store.snapshot.isSome

/-- Whether the client is ready once the poller has noted a result or the wait is over. -/
def becameReady (c : Client) : Bool :=
  match c.polling.readiness with
  | some (.ok ()) => c.isInitialized
  | _ => false

/-- Ends the poller, whose last fetch is answered by `late`, and then drops the configuration. -/
def destroyDuring (c : Client) (late : Request → Reply) : Client :=
  let polling := c.polling.join late
  ⟨{ polling with store := polling.store.clear }⟩

def destroy (c : Client) : Client := c.destroyDuring fun _ => .broken

def advance (c : Client) (replies : List Reply) : Client := ⟨c.polling.advance replies⟩

instance : FlagClient Client where
  isInitialized := isInitialized
  becameReady := becameReady
  destroy := destroy
  value c := c.store.value

end Client

end FlagHost
