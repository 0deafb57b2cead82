import FlagHost.Connector
import FlagHost.Server.CheckFlag

/-!
# Routes

Each path that the server knows takes one method. Everything else is not found; the answer to a
`HEAD` request for what can be got has no body.
-/

namespace FlagHost

inductive Route where
  | version
  | ping
  | checkFlag
deriving DecidableEq, Repr

namespace Route

/-- The route of a path, which must agree to the letter. -/
def ofPath? : String → Option Route
  | "/sdk/version" => some .version
  | "/api/1.0/ping" => some .ping
  | "/api/1.0/check_flag" => some .checkFlag
  | _ => none

def method : Route → String
  | .version => "GET"
  | .ping => "GET"
  | .checkFlag => "POST"

def document (hasClient : Bool) (body : Bytes) : Route → Inquiry (Except RequestFault Json)
  | .version => .done (.ok (.object [("version", .text FlagHost.version)]))
  | .ping => .done (.ok (.object [("ok", .boolean true)]))
  | .checkFlag => (FlagHost.checkFlag hasClient body).map (·.map CheckAnswer.format.encode)

end Route

/-- The path that a request asks for, without a query; of a whole address its path counts. -/
def requestedPath (asked : String) : String :=
  let cs := asked.toList.takeWhile fun c => c ≠ '?' && c ≠ '#'
  let path := match cs with
    | '/' :: _ => cs
    | _ =>
      match Url.splitOn? (· = ':') cs with
      | (_, some ('/' :: '/' :: rest)) => rest.dropWhile (· ≠ '/')
      | _ => cs
  String.ofList (if path.isEmpty then ['/'] else path)

def handle (hasClient : Bool) (method asked : String) (body : Bytes) : Inquiry Response :=
  match Route.ofPath? (requestedPath asked) with
  | none => .done .notFound
  | some route =>
    if method = route.method then (route.document hasClient body).map (.json 200)
    else if method = "HEAD" ∧ route.method = "GET" then .done { Response.notFound with body := [] }
    else .done .notFound

def respond {γ : Type} [FlagClient γ] (client : Option γ) (method asked : String)
    (body : Bytes) : Response :=
  (handle client.isSome method asked body).result (Question.answer client)

end FlagHost
