import FlagHost.Configuration
import FlagHost.Error
import FlagHost.Http
import FlagHost.Json.Printer
import FlagHost.Unicode.Blank

/-!
# The connector

The connector fetches configurations from the flag service. It first exchanges the key for a token,
whose claims say what to ask for, and keeps both as its session until the service no longer accepts
the token. A key that is rejected is not tried again.
-/

namespace FlagHost

def version : String := "0.1.0"

def userAgent : String := "ff-test-wrapper/" ++ version

structure Session where
  token : String
  claims : Claims

structure Connector where
  apiKey : String
  baseUrl : String
  session : Option Session := none
  /-- The key was rejected. -/
  rejected : Bool := false

namespace Connector

open Json (Format)

/-- Whether a text may be sent as a header: it has no control characters but tabs. -/
def isHeaderText (s : String) : Bool :=
  s.toList.all fun c => c = '\t' || (0x20 ≤ c.toNat && c.toNat ≠ 0x7F)

def keyFormat : Format String :=
  (Format.record "struct AuthenticationRequest" (.cons (required "apiKey" .text) .nil)).map
    (fun (key, ()) => key) fun key => (key, ())

def tokenFormat : Format String :=
  (Format.record "struct AuthenticationResponse" (.cons (required "authToken" .text) .nil)).map
    (fun (token, ()) => token) fun token => (token, ())

def url? (c : Connector) (path : String) (pairs : List (String × String)) : Option Url :=
  (Url.parse? (c.baseUrl ++ path)).map (·.withPairs pairs)

/-- Sends a request, if it can be sent, and gives its response. How long an answer is waited for,
and that a service may refer to another address, where the request is then sent again, is left to
what carries the requests: a reply is what comes back in the end. -/
def exchange (request : Request) : Talk (Except NetworkFailure Response) :=
  if request.url.isWeb && request.headers.all fun (_, text) => isHeaderText text then do
    match ← Talk.send request with
    | .response r => pure (.ok r)
    | .broken => pure (.error .unanswered)
  else pure (.error .unsendable)

def decodeBody {α : Type} (format : Format α) (r : Response) : Except Error α :=
  (format.ofBytes r.body).mapError fun _ => .network .undecodable

def authenticationRequest (c : Connector) (url : Url) : Request where
  method := "POST"
  url := url
  headers := [("content-type", "application/json"), ("user-agent", userAgent)]
  body := (keyFormat.encode c.apiKey).toBytes

def authenticated (c : Connector) (r : Response) : Except Error Unit × Connector :=
  if r.isSuccess then
    let session : Except Error Session := do
      let token ← decodeBody tokenFormat r
      let claims ← (Claims.ofToken (Utf8.ofText token)).mapError .invalidToken
      pure ⟨token, claims⟩
    match session with
    | .ok session => (.ok (), { c with session := some session })
    | .error e => (.error e, c)
  else if r.status = 401 || r.status = 403 then (.error .unauthorized, { c with rejected := true })
  else (.error (.unexpectedStatus r.status), c)

def authenticate (c : Connector) : Talk (Except Error Unit × Connector) :=
  match c.url? "/client/auth" [] with
  | none => pure (.error .invalidUrl, c)
  | some url => do
    match ← exchange (c.authenticationRequest url) with
    | .error failure => pure (.error (.network failure), c)
    | .ok r => pure (c.authenticated r)

/-- The headers that tell whose flags are asked for: the label of the environment, or else its
name, and the account. -/
def claimHeaders (claims : Claims) : List (String × String) :=
  let unlessBlank (text : Option String) : Option String := text.filter (!Unicode.isBlank ·)
  let environment := (unlessBlank claims.environmentLabel).getD claims.environment
  (if environment.isEmpty then [] else [("harness-environmentid", environment)]) ++
    ((unlessBlank claims.account).map ("harness-accountid", ·)).toList

def getRequest (session : Session) (url : Url) : Request where
  method := "GET"
  url := url
  headers := ("authorization", "Bearer " ++ session.token) :: claimHeaders session.claims ++
    [("user-agent", userAgent)]

/-- What the answer to a request with a token makes of the connector. A token that is not accepted
ends the session. -/
def received {α : Type} (format : Format α) (c : Connector) (r : Response) :
    Except Error α × Connector :=
  if r.isSuccess then (decodeBody format r, c)
  else
    let left : Connector := if r.status = 403 then { c with session := none } else c
    (.error (.unexpectedStatus r.status), left)

def get {α : Type} (c : Connector) (format : Format α) (path : String)
    (pairs : List (String × String)) : Talk (Except Error α × Connector) :=
  match c.session with
  | none => pure (.error .unauthorized, c)
  | some session =>
    let pairs := pairs ++ (session.claims.cluster.map ("cluster", ·)).toList
    match c.url? path pairs with
    | none => pure (.error .invalidUrl, c)
    | some url => do
      match ← exchange (getRequest session url) with
      | .error failure => pure (.error (.network failure), c)
      | .ok r => pure (received format c r)

/-- Asks for the flags and then for the segments of an environment. -/
def getConfiguration (c : Connector) (environment : String) :
    Talk (Except Error Configuration × Connector) := do
  let base := "/client/env/" ++ environment
  match ← c.get Configuration.entries (base ++ "/feature-configs") [] with
  | (.error e, c) => pure (.error e, c)
  | (.ok flags, c) =>
    match ← c.get Configuration.entries (base ++ "/target-segments") [("rules", "v2")] with
    | (.error e, c) => pure (.error e, c)
    | (.ok segments, c) => pure (.ok (Configuration.ofEntries flags segments), c)

def environment (c : Connector) : String := (c.session.map (·.claims.environment)).getD ""

/-- Fetches a configuration, with a new token if there is none. -/
def fetch (c : Connector) : Talk (Except Error Configuration × Connector) :=
  if c.rejected then pure (.error .unauthorized, c)
  else if c.session.isSome then c.getConfiguration c.environment
  else do
    match ← c.authenticate with
    | (.error e, c) => pure (.error e, c)
    | (.ok (), c) => c.getConfiguration c.environment

end Connector

end FlagHost
