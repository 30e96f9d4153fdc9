import StackQuery.Run.Notice
import StackQuery.Run.Options
import StackQuery.Settings.Load

/-!
# Failures of a run

Each failure ends the run with an exit code, a text on the standard error stream and trouble in the log,
or, where nobody foresaw it, without any of them.
-/
namespace StackQuery.Run

inductive Failure where
  | settings (error : Settings.LoadError)
  | log (error : Files.NulInPath)
  | option (error : OptionError)
  | query (error : Query.ParseError)
  /-- A regex in the query that is refused for a reason other than its form. -/
  | regex (error : Regex.CompileError)
  | rule (error : RuleError)
  | input (error : Files.FileError)
  | inputText (error : Utf8.Ill)
  | limit (error : LimitError)
  | sample (error : SampleError)
  | build (error : Report.BuildError)
  deriving DecidableEq, Repr

def Failure.ofCount : CountError → Failure
  | .limit e => .limit e
  | .sample e => .sample e

def Failure.message : Failure → String
  | .settings e => e.message
  | .log e => e.message
  | .option e => e.message
  | .query e => e.message
  | .regex e => e.message
  | .rule e => e.message
  | .input e => e.message
  | .inputText e => e.message
  | .limit e => e.message
  | .sample (.rename e) => e.message
  | .sample (.span e) => e.message
  | .build e => e.message

def successExit : Nat := 0

def ioExit : Nat := 1

def configurationExit : Nat := 2

def invariantExit : Nat := 3

structure Ending where
  code : Nat
  stderr : String
  trouble : Trouble
  deriving DecidableEq, Repr

namespace Ending

def errorLine (message : String) : String := "Error: " ++ message ++ "\n"

/-- The end of a run that was asked for what makes no sense. -/
def configuration (message : String) : Ending :=
  ⟨configurationExit, errorLine message, .configuration message⟩

def fileNotFound (message : String) : Ending := ⟨ioExit, errorLine message, .fileNotFound message⟩

/-- The end of a run that cannot open a file, if the system was asked for it. -/
def unopened? (e : Files.FileError) : Option Ending :=
  match e with
  | .refused .missing _ => some (fileNotFound e.message)
  | .refused _ _ => some ⟨ioExit, errorLine e.message, .io e.message⟩
  | .nul _ => none

/-- The end of a run with a query that is rejected: its fault is pointed at. -/
def query (e : Query.ParseError) : Ending :=
  ⟨configurationExit, errorLine e.detail ++ String.join (e.caretLines.map (· ++ "\n")), .query e⟩

end Ending

def settingsEnding? (e : Settings.LoadError) : Option Ending :=
  if e.isSettingsFault then some (.configuration e.message)
  else match e with
    | .notFound _ => some (.fileNotFound e.message)
    | .unopened error => Ending.unopened? error
    | _ => none

def ruleEnding? (e : RuleError) : Option Ending :=
  match e with
  | .badRegex .. | .missingGroup .. | .unknownGroup .. => some (.configuration e.message)
  | _ => none

def Failure.ending? : Failure → Option Ending
  | .settings e => settingsEnding? e
  | .log _ => none
  | .option e => some (.configuration e.message)
  | .query e => some (.query e)
  | .regex _ => none
  | .rule e => ruleEnding? e
  | .input e => Ending.unopened? e
  | .inputText _ => none
  | .limit _ => none
  | .sample (.rename _) => none
  | .sample (.span e) => some ⟨invariantExit, "", .invariant e.message⟩
  | .build (.arithmetic _) => none
  | .build e => some (.configuration e.message)

end StackQuery.Run
