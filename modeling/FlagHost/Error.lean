import FlagHost.Token

/-!
# Errors

What can go wrong in the client, the server and their settings. Evaluations never fail, and what
goes wrong with a single request to the server is part of its answer, so neither is here.
-/

namespace FlagHost

inductive NetworkFailure where
  /-- The request cannot be written. -/
  | unsendable
  /-- There was no answer. -/
  | unanswered
  /-- The answer does not hold the document that is expected. -/
  | undecodable
  /-- The answer has a status that tells of an error. -/
  | status (code : Nat) (reason : String)
deriving DecidableEq, Repr

def NetworkFailure.message : NetworkFailure → String
  | .unsendable => "builder error"
  | .unanswered => "error sending request"
  | .undecodable => "error decoding response body"
  | .status code reason =>
    let side := if code < 500 then "client" else "server"
    "HTTP status " ++ side ++ " error (" ++ toString code ++ " " ++ reason ++ ")"

inductive MachineFailure where
  | noSuchFile
  | notText
  | addressInUse
deriving DecidableEq, Repr

def MachineFailure.message : MachineFailure → String
  | .noSuchFile => "No such file or directory (os error 2)"
  | .notText => "stream did not contain valid UTF-8"
  | .addressInUse => "Address already in use (os error 98)"

inductive Error where
  | missingSdkKey
  | invalidUrl
  | unauthorized
  | invalidToken (fault : TokenFault)
  | unexpectedStatus (status : Nat)
  | alreadyStarted
  | settings (problem : String)
  | selfTest (check : String)
  | machine (failure : MachineFailure)
  | network (failure : NetworkFailure)
  | document (defect : Json.Defect)

def Error.message : Error → String
  | .missingSdkKey => "SDK key cannot be empty"
  | .invalidUrl => "invalid base_url configuration"
  | .unauthorized => "unauthorized, SDK key is likely invalid"
  | .invalidToken fault => "invalid authentication token: " ++ fault.message
  | .unexpectedStatus status => "unexpected response status: " ++ toString status
  | .alreadyStarted => "server has already been started"
  | .settings problem => "configuration error: " ++ problem
  | .selfTest check => "self test failed: " ++ check
  | .machine failure => failure.message
  | .network failure => failure.message
  | .document defect => defect.message

end FlagHost
