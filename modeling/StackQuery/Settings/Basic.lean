import StackQuery.Files.Tree
import StackQuery.Log.Level
import StackQuery.Number.Basic
import StackQuery.Report.View

/-!
# Settings

What a run can be told beside its query: how many functions a report keeps, rename rules, logging, the
limits of reports, and how the samples are counted.
-/
namespace StackQuery.Settings

open Log (Level Format)

structure LogFile where
  enabled : Bool
  path : Files.Path
  deriving DecidableEq, Repr

def LogFile.default : LogFile := ⟨false, .ofText "stack-focus.log"⟩

structure Logging where
  level : Level
  format : Format
  file : LogFile
  deriving DecidableEq, Repr

def Logging.default : Logging := ⟨.warning, .console, .default⟩

/-- The limits of reports: levels and cutoff of trees and flat profiles, and the sampling frequency. -/
structure ReportLimits where
  maxDepth : Option Int
  minPercent : Binary64
  frequency : Option Binary64
  deriving DecidableEq, Repr

def ReportLimits.default : ReportLimits := ⟨none, .zero false, none⟩

structure Runtime where
  workers : Int
  chunkSize : Int
  deriving DecidableEq, Repr

def defaultChunkSize : Int := 5000

def Runtime.default : Runtime := ⟨1, defaultChunkSize⟩

/-- A regex and the template that replaces its matches, as texts. -/
structure RulePair where
  pattern : String
  replacement : String
  deriving DecidableEq, Repr

end Settings

structure Settings where
  threshold : Int
  innermostFirst : Bool
  rename : List Settings.RulePair
  logging : Settings.Logging
  report : Settings.ReportLimits
  runtime : Settings.Runtime
  deriving DecidableEq, Repr

namespace Settings

def default : Settings :=
  ⟨Report.defaultThreshold, false, [], .default, .default, .default⟩

def rulePairs (s : Settings) : List (String × String) :=
  s.rename.map fun r => (r.pattern, r.replacement)

end Settings

end StackQuery
