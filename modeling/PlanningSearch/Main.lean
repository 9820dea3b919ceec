import PlanningSearch.Service.Routes
import PlanningSearch.Settings.Load
import PlanningSearch.Web.Wire

/-!
The command line: loads the settings, from a file named by the first argument if there is one, and
answers the requests of one connection that arrives on standard input.
-/

namespace PlanningSearch.CommandLine

def readFile? (path : String) : IO (Option String) := do
  try
    return some (← IO.FS.readFile path)
  catch _ =>
    return none

def readFiles (paths : List String) : IO Settings.Files := do
  let found ← paths.mapM fun path => do
    return (← readFile? path).map fun text => (path, text)
  return found.filterMap id

def readVariables (names : List String) : IO (List (String × String)) := do
  let found ← names.mapM fun name => do
    return (← IO.getEnv name).map fun value => (name, value)
  return found.filterMap id

partial def readHeaders (input : IO.FS.Stream) (headers : List (String × String)) :
    IO (List (String × String)) := do
  match Web.headerLine? (← input.getLine) with
  | some header => readHeaders input (headers ++ [header])
  | none => return headers

partial def readBytes (input : IO.FS.Stream) (count : Nat) (bytes : ByteArray) : IO ByteArray := do
  if count ≤ bytes.size then return bytes
  let more ← input.read (USize.ofNat (count - bytes.size))
  if more.isEmpty then return bytes
  readBytes input count (bytes ++ more)

partial def serve (input output : IO.FS.Stream) : IO Unit := do
  let line ← input.getLine
  match Web.startLine? line with
  | none => return
  | some (method, target) =>
    let headers ← readHeaders input []
    let bytes ← readBytes input (Web.bodyLength headers) ByteArray.empty
    let body := (String.fromUTF8? bytes).getD ""
    output.putStr (Service.answer ⟨method, target, headers, body⟩).render
    output.flush
    serve input output

def run (args : List String) : IO UInt32 := do
  let path := args.head?
  let files ← readFiles (Settings.candidates path)
  let environment ← readVariables Settings.variableNames
  match Settings.load files environment path with
  | .error e =>
    IO.eprintln e.describe
    return 1
  | .ok settings =>
    IO.eprintln ("compile service listening for " ++ settings.bind)
    serve (← IO.getStdin) (← IO.getStdout)
    return 0

end PlanningSearch.CommandLine

def main (args : List String) : IO UInt32 := PlanningSearch.CommandLine.run args
