import FlagHost.Server.Router

/-!
# The self test

The self test asks a server for what every server must answer, and for one flag. It does not wait
for an answer as long as the server may take for one: a server that follows the prerequisites of a
flag looks at a flag again on every way that leads to it, which can take as long as one likes. An
answer that is late is as good as none.
-/

namespace FlagHost

namespace SelfTest

open Json (Format)

def url (server : Url) (path : List String) : Url :=
  { server with path := .segments (path.map String.toList), query := none }

/-- Sends a request and gives the response. A reply is what comes back in time, and from the address
to which the server may have referred: neither the clock nor a referral is seen here. -/
def exchange (request : Request) : Talk (Except Error Response) := do
  match ← Connector.exchange request with
  | .ok r => pure (.ok r)
  | .error failure => pure (.error (.network failure))

def unlessError (r : Response) : Except Error Response :=
  if 400 ≤ r.status ∧ r.status < 600 then .error (.network (.status r.status r.reason)) else .ok r

def decoded {α : Type} (format : Format α) (r : Response) : Except Error α := do
  Connector.decodeBody format (← unlessError r)

def ensure (check : String) (passed : Bool) : Except Error Unit :=
  if passed then .ok () else .error (.selfTest check)

def expectDocument (check : String) (expected : Json) (r : Response) : Except Error Unit := do
  let v ← decoded Format.document r
  ensure check (v.equivalent expected)

def expectNotFound (r : Response) : Except Error Unit :=
  ensure "unknown path" (r.status = 404 && r.body == Utf8.ofText "Not found")

def expectFlag (key : String) (r : Response) : Except Error Unit := do
  let answer ← decoded CheckAnswer.format r
  ensure "/api/1.0/check_flag"
    (answer.key == key && (Flag.Kind.read? .boolean answer.value).isSome)

def getRequest (server : Url) (path : List String) : Request where
  method := "GET"
  url := url server path

/-- The body of the check of a flag: the members are written in the order of their names. -/
def checkBody (key : String) : Bytes :=
  (Json.canonical (CheckRequest.format.encode ⟨"boolean", key, ⟨"test", "test"⟩⟩)).toBytes

def checkRequest (server : Url) (key : String) : Request where
  method := "POST"
  url := url server ["api", "1.0", "check_flag"]
  headers := [("content-type", "application/json")]
  body := checkBody key

def checks (server : Url) (key : String) : List (Request × (Response → Except Error Unit)) :=
  [(getRequest server ["sdk", "version"],
      expectDocument "/sdk/version" (.object [("version", .text version)])),
   (getRequest server ["api", "1.0", "ping"],
      expectDocument "/api/1.0/ping" (.object [("ok", .boolean true)])),
   (getRequest server ["api", "1.0", "unknown"], expectNotFound),
   (checkRequest server key, expectFlag key)]

def pass : List (Request × (Response → Except Error Unit)) → Talk (Except Error Unit)
  | [] => .done (.ok ())
  | (request, expect) :: rest => do
    match ← exchange request with
    | .error e => pure (.error e)
    | .ok r =>
      match expect r with
      | .error e => pure (.error e)
      | .ok () => pass rest

end SelfTest

def selfTest (server : Url) (key : String) : Talk (Except Error Unit) :=
  SelfTest.pass (SelfTest.checks server key)

def replying {γ : Type} [FlagClient γ] (client : Option γ) (request : Request) : Reply :=
  .response (respond client request.method request.url.target request.body)

/-- How many milliseconds a test waits for each answer. -/
def SelfTest.patience : Nat := 10000

/-- What comes back while a test waits for it, if the answer to a request takes so many
milliseconds. Answers are short, so that they are there as a whole or not at all. -/
def SelfTest.inTime (takes : Request → Nat) (server : Request → Reply) (request : Request) :
    Reply :=
  if takes request ≤ patience then server request else .broken

end FlagHost
