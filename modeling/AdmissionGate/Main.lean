import AdmissionGate.Gate.Run
import AdmissionGate.Program.Startup

/-!
# The command line

Reads the configuration from the environment and the identity from its files, and then decides reviews from standard
input: each line is a path, a space and a review, and is answered by a line with the answering review or with the reason
why there is none.
-/

namespace AdmissionGate.CommandLine

def environment : IO (List (String × String)) := do
  let mut settings := []
  for setting in Variable.all do
    if let some value ← IO.getEnv setting.name then
      settings := (setting.name, value) :: settings
  return settings

def contentOf (path : String) : IO (Except IoError (List UInt8)) := do
  try
    return .ok (← IO.FS.readBinFile path).toList
  catch error =>
    return .error
      (match error with
        | .noFileOrDirectory .. => .notFound
        | .inappropriateType .. => .isADirectory
        | other => .custom "Other" (toString other))

def surroundings : IO Surroundings := do
  let settings ← environment
  let lookup := fun name => settings.lookup name
  match Configuration.load lookup with
  | .error _ => return ⟨lookup, fun _ => .error .notFound⟩
  | .ok configuration =>
    let certificate ← contentOf configuration.certificatePath
    let key ← contentOf configuration.keyPath
    return ⟨lookup, fun path => if path = configuration.certificatePath then certificate else key⟩

/-- The gate that a startup opens, with handlers that allow every request. -/
def gateOf (startup : Startup) : Gate where
  kinds := startup.kinds
  handlers := fun _ => Handlers.ofRoutes fun _ => allowAll
  settings := Settings.ofConfiguration startup.configuration

/-- The message on a line: a path, a space and a review. -/
def messageOf? (line : String) : Option Http.Message :=
  let path := line.toList.takeWhile (· ≠ ' ')
  let review := line.toList.drop (path.length + 1)
  Http.Message.ofParts? "POST" (String.ofList path)
    [("content-type", Text.Utf8.encode Review.jsonContentType.toList)]
    (.ofOctets (Text.Utf8.encode (Text.trimChars review)))

def shown (exchange : Exchange) : String :=
  let answer := exchange.answer
  if answer.status = 200 then String.ofList (Text.Utf8.decodeLossy answer.body)
  else toString answer.status ++ " " ++ String.ofList (Text.Utf8.decodeLossy answer.body)

/-- Decide the reviews on the lines of the input until it ends. -/
partial def serveLines (gate : Gate) (state : Gate.State) (input output : IO.FS.Stream) : IO Unit := do
  let line ← input.getLine
  if line.isEmpty then return
  match messageOf? line with
  | none =>
    output.putStrLn "400"
    output.flush
    serveLines gate state input output
  | some message =>
    let (state, exchange) := gate.serve state message
    output.putStrLn (shown exchange)
    output.flush
    serveLines gate state input output

end AdmissionGate.CommandLine

open AdmissionGate in
/-- Start the gate, or say why it does not start. -/
def main : IO UInt32 := do
  match Startup.load (← CommandLine.surroundings) with
  | .error error =>
    IO.eprintln ("Error: " ++ error.record)
    return 1
  | .ok startup =>
    CommandLine.serveLines (CommandLine.gateOf startup) (Gate.State.fresh false) (← IO.getStdin) (← IO.getStdout)
    return 0
