import FlagHost.Client.Basic

/-!
# Settings

The program is set up by a document, of which two things may be overridden from its environment. The
settings of a server follow from it, provided that there is a key.
-/

namespace FlagHost

open Json (Format)

inductive Logger where
  | standard
  | filesystem
deriving DecidableEq, Repr

def Logger.format : Format Logger := .choice [("default", .standard), ("filesystem", .filesystem)]

structure Settings where
  /-- Whether the program tests the server and ends. -/
  selfTest : Bool := true
  port : UInt16 := 4000
  sdkKey : String := ""
  logger : Logger := .standard
deriving DecidableEq, Repr

/-- The settings of a server. Times are in milliseconds. -/
structure ServerSettings where
  bindAddress : String := "0.0.0.0"
  port : UInt16
  apiKey : String
  startupTimeout : Nat := 30000
  client : ClientSettings := {}
deriving DecidableEq, Repr

namespace Settings

def format : Format Settings :=
  (Format.record "struct WrapperConfig" <|
    .cons (defaulting "selfTest" .boolean true) <|
    .cons (defaulting "port" .uint16 4000) <|
    .cons (defaulting "sdkKey" .text "") <|
    .cons (defaulting "logger" Logger.format .standard) .nil).map
  (fun (selfTest, port, sdkKey, logger, ()) => { selfTest, port, sdkKey, logger })
  fun s => (s.selfTest, s.port, s.sdkKey, s.logger, ())

def ofBytes (bytes : Bytes) : Except Error Settings := (format.ofBytes bytes).mapError .document

/-- The settings in a file, which must be a text. -/
def ofFile (content : Except MachineFailure Bytes) : Except Error Settings := do
  let bytes ← content.mapError .machine
  if (Utf8.text? bytes).isNone then throw (.machine .notText)
  ofBytes bytes

/-- Reads a port: digits, with a plus sign in front or not. -/
def port? (text : String) : Option UInt16 :=
  let digits := match text.toList with
    | '+' :: cs => cs
    | cs => cs
  if digits.isEmpty || !digits.all Char.isDigit then none
  else
    let n := Digit.decimal digits
    if n < 65536 then some (UInt16.ofNat n) else none

/-- The settings with the port and the key of the environment, where it has them. -/
def overridden (s : Settings) (environment : String → Option String) : Except Error Settings := do
  let port ← match environment "WRAPPER_PORT" with
    | none => pure s.port
    | some text => (port? text).elim (throw (.settings ("invalid WRAPPER_PORT: " ++ text))) pure
  return { s with port := port, sdkKey := (environment "FF_API_KEY").getD s.sdkKey }

def toServer (s : Settings) (client : ClientSettings) : Except Error ServerSettings :=
  if Unicode.isBlank s.sdkKey then .error (.settings "sdkKey is not set")
  else .ok { port := s.port, apiKey := s.sdkKey, client }

end Settings

end FlagHost
