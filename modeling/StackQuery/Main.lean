import StackQuery.CommandLine.Reader
import StackQuery.Log.Text
import StackQuery.Run.Execution
import StackQuery.Settings.Standard

/-!
# The program

The outer layer: it reads the arguments, the environment and the files that a request names, carries out
the request, and writes what came out of it.
-/
namespace StackQuery.Program

/-- The variables of the environment, each a name, an equals sign and a value. -/
def environmentOf (bytes : List UInt8) : Settings.Environment :=
  let entries := (String.ofList (Utf8.decodeLossy bytes)).splitOn "\x00"
  entries.filterMap fun entry =>
    match entry.splitOn "=" with
    | name :: value :: more => some (name, "=".intercalate (value :: more))
    | _ => none

def readEnvironment : IO Settings.Environment := do
  try return environmentOf (← IO.FS.readBinFile "/proc/self/environ").toList
  catch _ => return []

def readEntry (tree : Files.Tree) (path : Files.Path) : IO Files.Tree := do
  try return tree.insert path (← IO.FS.readBinFile path.text).toList
  catch
    | .inappropriateType .. => return tree.insertDirectory path
    | _ => return tree

def readPath (tree : Files.Tree) (path : Files.Path) : IO Files.Tree :=
  (List.range (path.parts.length + 1)).foldlM
    (fun tree n => readEntry tree { path with parts := path.parts.take n }) tree

/-- The path of the log file under the settings of a request, if they can be loaded. -/
def logPath? (r : Request) (env : Settings.Environment) (tree : Files.Tree) : Option Files.Path :=
  let settings := match r.config with
    | some path => Settings.Loader.standard.load tree env path
    | none => Settings.Loader.standard.ofEnvironment env
  match settings with
  | .ok s => if s.logging.file.enabled then some s.logging.file.path else none
  | .error _ => none

def readFiles (r : Request) (env : Settings.Environment) : IO Files.Tree := do
  let tree ← readPath .empty (.ofText r.input)
  let tree ← match r.config with
    | some path => readPath tree path
    | none => pure tree
  match logPath? r env tree with
  | some path => readPath tree path
  | none => return tree

def appendLines (path : Files.Path) (lines : List Log.Line) : IO Unit := do
  IO.FS.createDirAll path.parent.text
  let handle ← IO.FS.Handle.mk path.text .append
  handle.putStr (String.join (lines.map fun line => line.text ++ "\n"))

def writeJournal (journal : Log.Journal) : IO Unit := do
  for line in journal.console do
    IO.eprintln line.text
  for (path, lines) in journal.files.entries do
    appendLines path lines

def carryOut (r : Request) : IO UInt32 := do
  let env ← readEnvironment
  let files ← readFiles r env
  let stdin ← if r.input == Request.standardInput then (← IO.getStdin).readBinToEnd else pure .empty
  let (outcome, trace) := Run.runFresh .standard r env files stdin.toList
  match outcome with
    | .ended _ stdout stderr => do
      IO.print stdout
      IO.eprint stderr
    | .escaped failure => IO.eprintln failure.message
  writeJournal trace.journal
  return UInt32.ofNat outcome.exitCode

end StackQuery.Program

open StackQuery in
def main (arguments : List String) : IO UInt32 := do
  match CommandLine.read arguments with
  | .ok request => Program.carryOut request
  | .error stop =>
    match stop with
    | .help => IO.print CommandLine.helpText
    | .version => IO.print CommandLine.versionText
    | .usage e => IO.eprint e.text
    return UInt32.ofNat stop.exitCode
