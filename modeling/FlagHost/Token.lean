import FlagHost.Base64
import FlagHost.Flag.Format

/-!
# Tokens

A token has parts with dots between them, of which the second one carries claims: a document in
base64. The signature is not checked, the claims only tell what to ask the flag service for.
-/

namespace FlagHost

open Json (Format)

structure Claims where
  environment : String := ""
  cluster : Option String := none
  account : Option String := none
  environmentLabel : Option String := none
deriving DecidableEq, Repr

def Claims.format : Format Claims :=
  (Format.record "struct Claims" <|
    .cons (defaulting "environment" .text "") <|
    .cons (nullable "clusterIdentifier" .text) <|
    .cons (nullable "accountID" .text) <|
    .cons (nullable "environmentIdentifier" .text) .nil).map
  (fun (environment, cluster, account, environmentLabel, ()) =>
    { environment, cluster, account, environmentLabel })
  fun c => (c.environment, c.cluster, c.account, c.environmentLabel, ())

inductive TokenFault where
  | noPayload
  | encoding (fault : Base64.Fault)
  | claims (defect : Json.Defect)
  | noEnvironment

def TokenFault.message : TokenFault → String
  | .noPayload => "token has no payload"
  | .encoding fault => fault.message
  | .claims defect => defect.message
  | .noEnvironment => "token has no environment"

/-- The part of a token behind its first dot and in front of the second one. -/
def payload? (token : Bytes) : Option Bytes :=
  let dot : UInt8 := 46
  match token.dropWhile (· ≠ dot) with
  | [] => none
  | _ :: rest => some (rest.takeWhile (· ≠ dot))

/-- The claims of a token. Symbols of both base64 alphabets may be used. -/
def Claims.ofToken (token : Bytes) : Except TokenFault Claims := do
  let payload ← (payload? token).elim (.error .noPayload) .ok
  let bytes ← (Base64.decode (payload.map Base64.safe)).mapError .encoding
  let claims ← (Claims.format.ofBytes bytes).mapError .claims
  if claims.environment.isEmpty then .error .noEnvironment else .ok claims

end FlagHost
