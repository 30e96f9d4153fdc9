import StackQuery.Aggregation.Basic
import StackQuery.Settings.Basic

/-!
# Requests

A request says which query to run over which input, what to report, and what of the settings to replace.
-/
namespace StackQuery

inductive ReportKind where
  | summary
  | histogram
  | graph
  | tree
  | flat
  deriving DecidableEq, Repr

def ReportKind.text : ReportKind → String
  | .summary => "summary"
  | .histogram => "hist"
  | .graph => "graph"
  | .tree => "tree"
  | .flat => "flat"

structure Mode where
  kind : ReportKind
  scope : Scope
  deriving DecidableEq, Repr

namespace Mode

def summary : Mode := ⟨.summary, .all⟩

def choices : List Mode := [
  ⟨.histogram, .matched⟩, ⟨.histogram, .callers⟩, ⟨.histogram, .callees⟩,
  ⟨.graph, .matched⟩, ⟨.graph, .callers⟩, ⟨.graph, .callees⟩,
  ⟨.tree, .callers⟩, ⟨.tree, .callees⟩, ⟨.flat, .matched⟩]

def needsStacks (m : Mode) : Bool := m.kind == .tree || m.kind == .flat

end Mode

/-- What a run is asked to do. What is absent is left to the settings. -/
structure Request where
  query : String
  /-- The path of the input, or a dash for the standard input. -/
  input : String
  mode : Option Mode
  threshold : Option Int
  maxDepth : Option Int
  minPercent : Option Binary64
  frequency : Option Binary64
  rename : List (String × String)
  /-- Samples are to be read innermost frame first, whatever the settings say. -/
  innermostFirst : Bool
  workers : Option Int
  config : Option Files.Path
  debug : Bool
  format : Option Log.Format
  deriving DecidableEq, Repr

namespace Request

def standardInput : String := "-"

def ofQuery (query : String) : Request where
  query := query
  input := standardInput
  mode := none
  threshold := none
  maxDepth := none
  minPercent := none
  frequency := none
  rename := []
  innermostFirst := false
  workers := none
  config := none
  debug := false
  format := none

def modeOrSummary (r : Request) : Mode := r.mode.getD .summary

end Request

end StackQuery
