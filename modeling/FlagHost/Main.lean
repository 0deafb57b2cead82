import FlagHost.CommandLine

/-!
# The entry point

The environment of the process is read here, and what comes out is written. The process has no
connection to a flag service: its client gets no reply and answers with defaults. Requests to the
server come from standard input, a line each with the method, what is asked for, and the body.
-/

open FlagHost

def variableNames : List String :=
  ["WRAPPER_CONFIG", "WRAPPER_PORT", "FF_API_KEY", "FF_CONFIG_URL", "FF_EVENT_URL"]

def readFile (path : String) : IO (Except MachineFailure Bytes) := do
  try
    return .ok (← IO.FS.readBinFile path).toList
  catch _ => return .error .noSuchFile

def surroundings : IO Surroundings := do
  let found ← variableNames.filterMapM fun name => do
    return (← IO.getEnv name).map (name, ·)
  let path := (found.lookup "WRAPPER_CONFIG").getD CommandLine.settingsFile
  let content ← readFile path
  return { environment := fun name => found.lookup name, file := fun _ => content }

/-- Answers the requests on standard input until it ends. -/
partial def serve (server : Server Client) : IO Unit := do
  let line ← (← IO.getStdin).getLine
  if line.isEmpty then return
  let word (cs : List Char) := cs.takeWhile fun c => c ≠ ' ' && c ≠ '\n'
  let cs := line.toList
  let method := word cs
  let asked := word (cs.drop (method.length + 1))
  let body := (cs.drop (method.length + asked.length + 2)).takeWhile (· ≠ '\n')
  let answer :=
    respond server.client (String.ofList method) (String.ofList asked) (Utf8.encode body)
  IO.println (toString answer.status ++ " " ++ answer.contentType.getD "")
  IO.println ((Utf8.text? answer.body).getD "")
  serve server

def main : IO UInt32 := do
  let around ← surroundings
  let settings := CommandLine.load around
  if CommandLine.logger settings = .filesystem then IO.FS.writeFile "wrapper.log" ""
  let network : Network := { bind := fun s => .ok ⟨s.bindAddress, s.port.toNat⟩ }
  let finish (result : Except Error Unit) : IO UInt32 := do
    if let .error e := result then IO.eprintln e.message
    return UInt32.ofNat (CommandLine.exitCode result)
  match settings with
  | .error e => finish (.error e)
  | .ok settings =>
    match CommandLine.run settings (CommandLine.clientSettings around) network with
    | .ended result _ => finish result
    | .serving server =>
      serve server
      finish (.ok ())
