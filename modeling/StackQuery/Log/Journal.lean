import StackQuery.Files.Tree
import StackQuery.Log.Record

/-!
# The journal of a run

A journal takes events and keeps the lines that came out of them, on the console and in files. A logger
keeps the format that was in force when it first reported an event, also one below the level; the level
and the file are those in force at each event. A setup takes effect before its file is created, as far as the format
goes.
-/
namespace StackQuery.Log

structure Setup where
  level : Level
  format : Format
  file : Option Files.Path
  deriving DecidableEq, Repr

def Setup.default : Setup := ⟨.warning, .console, none⟩

/-- The setup that words ask for. A file of no name is none. -/
def Setup.ofWords (level format : String) (file : Option String) : Except UnknownWord Setup := do
  let level ← Level.ofWord level
  let format ← Format.ofWord format
  return ⟨level, format, (file.filter (· != "")).map Files.Path.ofText⟩

/-- The lines of a log so far, and how further events are logged. -/
structure Journal where
  setup : Setup
  loggers : OrderedMap String Format
  context : List (String × Json)
  console : List Line
  files : OrderedMap Files.Path (List Line)

namespace Journal

def start (setup : Setup) : Journal := ⟨setup, .empty, [], [], .empty⟩

def write (j : Journal) (line : Line) : Journal :=
  { j with
    console := j.console ++ [line]
    files := match j.setup.file with
      | some path => j.files.insert path (j.files.getD path [] ++ [line])
      | none => j.files }

def takes (j : Journal) (level : Level) : Bool := decide (j.setup.level.rank ≤ level.rank)

def formatOf (j : Journal) (logger : String) : Format := j.loggers.getD logger j.setup.format

def log (j : Journal) (e : Event) : Journal :=
  let format := j.formatOf e.logger
  let j := { j with loggers := j.loggers.insert e.logger format }
  if j.takes e.level then j.write (.event e format j.context) else j

def bind (j : Journal) (values : List (String × Json)) : Journal :=
  { j with context := values.foldl (fun context v => Json.setMember context v.1 v.2) j.context }

def clear (j : Journal) : Journal := { j with context := [] }

def fileWarning (path : Files.Path) (e : Files.FileError) : String :=
  "Could not create log file " ++ path.text ++ ": " ++ e.message

/-- Changes the setup. The file is created; where the system refuses that, the old setup warns and the new one does
without a file. A path that the system is not asked about breaks off. -/
def configure (j : Journal) (setup : Setup) (tree : Files.Tree) :
    Except Files.NulInPath Unit × Journal × Files.Tree :=
  match setup.file with
  | none => (.ok (), { j with setup }, tree)
  | some path =>
    match tree.create path with
    | (.ok (), tree) =>
      let file := path.collapse
      (.ok (), { j with
          setup := { setup with file := some file }
          files := j.files.insert file (j.files.getD file []) }, tree)
    | (.error (.nul e), tree) => (.error e, { j with setup := { j.setup with format := setup.format } }, tree)
    | (.error e, tree) =>
      let j := if j.takes .warning then j.write (.plain (fileWarning path e)) else j
      (.ok (), { j with setup := { setup with file := none } }, tree)

end Journal

end StackQuery.Log
