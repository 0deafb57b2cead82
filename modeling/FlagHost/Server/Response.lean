import FlagHost.Http
import FlagHost.Json.Fault
import FlagHost.Json.Printer

/-!
# Answers of the server

Answers are documents or plain texts. What goes wrong with a request is answered with its message
as a text, which drivers of tests compare.
-/

namespace FlagHost

inductive RequestFault where
  /-- The body is larger than bodies may be. -/
  | tooLarge
  | document (defect : Json.Defect)
  /-- There is no document for what is to be answered. -/
  | unwritable (cause : Json.Cause)
  | clientUnavailable
  | unknownKind (name : String)

def RequestFault.message : RequestFault → String
  | .tooLarge => "length limit exceeded"
  | .document defect => defect.message
  | .unwritable cause => cause.message
  | .clientUnavailable => "client is not available"
  | .unknownKind name => "Unknown kind: '" ++ name ++ "'"

namespace Response

def reasonOf (status : Nat) : String :=
  match status with
  | 200 => "OK"
  | 404 => "Not Found"
  | 500 => "Internal Server Error"
  | _ => ""

def plain (status : Nat) (text : String) : Response where
  status := status
  reason := reasonOf status
  contentType := some "text/plain; charset=utf-8"
  body := Utf8.ofText text

def notFound : Response := plain 404 "Not found"

def error (message : String) : Response := plain 500 message

/-- A document, or what went wrong when it was to be written. -/
def json (status : Nat) (payload : Except RequestFault Json) : Response :=
  match payload with
  | .ok v => {
      status := status
      reason := reasonOf status
      contentType := some "application/json"
      body := v.toBytes }
  | .error fault => error fault.message

end Response

end FlagHost
