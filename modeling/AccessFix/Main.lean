import AccessFix.CommandLine
import Std.Time.DateTime.Timestamp

/-! The program. It reads from disk what the command line names, runs the command on that, and writes back what changed.
It starts no other program and opens no connection: the linter's results are read from standard input once a command
asks for them, and no model is within reach. -/
namespace AccessFix.Main

def nodeAt? (path : String) : IO (Option Node) := do
  try
    return some (.file (← IO.FS.readBinFile path).toList)
  catch e =>
    match e with
    | .inappropriateType _ 21 _ => return some .folder
    | _ => return none

def namedPaths (words : List String) : List String :=
  let values := words.map fun w => String.ofList ((w.toList.dropWhile (· ≠ '=')).drop 1)
  [CommandLine.defaultConfigPath, "."] ++ words ++ values

def routesOf (here : Route) (path : String) : List Route :=
  let names := Path.steps path
  let stops := (List.range (names.length + 1)).map fun n =>
    Path.follow (if Path.isAbsolute path then [] else here) (names.take n)
  stops.flatMap fun r => Files.parents r ++ [r]

def load (here : Route) (paths : List String) : IO Files := do
  let routes := ((paths.flatMap (routesOf here)).filter fun r => !r.isEmpty).eraseDups
  let nodes ← routes.filterMapM fun r => do return (← nodeAt? (Path.ofRoute r)).map fun n => (r, n)
  return { nodes := nodes, here := here }

def save (before after : Files) : IO Unit :=
  after.nodes.forM fun n => do
    match n.2 with
    | .folder => return
    | .file octets =>
      if before.node? n.1 ≠ some n.2 then IO.FS.writeBinFile (Path.ofRoute n.1) ⟨octets.toArray⟩

partial def readAll (input : IO.FS.Stream) (text : String) : IO String := do
  let line ← input.getLine
  if line.isEmpty then return text else readAll input (text ++ line)

def now : IO DateTime := do
  let t ← Std.Time.Timestamp.now
  return DateTime.ofSeconds t.val.second.val.toNat (t.val.nano.val.toNat / 1000)

def attempt (files : Files) (t : Surroundings) (words : List String) : CommandLine.Ended :=
  CommandLine.start ⟨files, []⟩ (CommandLine.run t words)

def perform (files : Files) (words : List String) : IO CommandLine.Ended := do
  let key := (← IO.getEnv "OPENAI_API_KEY").getD ""
  let t : Surroundings := ⟨fun _ => .ended 0 "" "", fun _ => .failed "ConnectionError" "", ← now, key⟩
  let ended := attempt files t words
  if ended.progress.trace.calls.isEmpty then return ended
  let results ← readAll (← IO.getStdin) ""
  return attempt files { t with lint := fun _ => .ended 0 results "" } words

end AccessFix.Main

open AccessFix in
def main (words : List String) : IO UInt32 := do
  let here := Path.resolve [] (toString (← IO.currentDir))
  let files ← Main.load here (Main.namedPaths words)
  let ended ← Main.perform files words
  Main.save files ended.progress.workspace.files
  IO.print ended.progress.out
  IO.eprint ended.progress.err
  match ended.stop with
  | none => return 0
  | some (.exit status) => return status.toUInt32
  | some (.failure f) =>
    IO.eprintln (Text.shown f.message)
    return 1
