import StackQuery.Counts.Basic
import StackQuery.Number.Basic
import StackQuery.Query.Match

/-!
# Summaries, histograms and graphs

A histogram keeps the functions that occur most often, a graph also the edges between them. Percentages
are of all samples of the pass. Equal counts stay in the order in which they were first seen.
-/
namespace StackQuery.Report

inductive BuildError where
  | threshold (given : Int)
  | cutoff (given : Number)
  | arithmetic (error : ArithmeticError)
  deriving DecidableEq, Repr

def BuildError.message : BuildError → String
  | .threshold given => "threshold must be a positive integer, got " ++ toString given
  | .cutoff given => "min_percent must be between 0 and 100, got " ++ given.text
  | .arithmetic error => error.message

def share (count total : Int) : Except BuildError Binary64 :=
  (percent count total).mapError .arithmetic

/-- How many samples matched. Its shares are computed when they are asked for. -/
structure Summary where
  total : Int
  matched : Int
  deriving DecidableEq, Repr

namespace Summary

def unmatched (s : Summary) : Int := s.total - s.matched

def matchedShare (s : Summary) : Except ArithmeticError Binary64 := percent s.matched s.total

def unmatchedShare (s : Summary) : Except ArithmeticError Binary64 := percent s.unmatched s.total

end Summary

def summarize (counts : Counts) : Summary := ⟨counts.total, counts.matched⟩

structure Row where
  name : Frame
  count : Int
  share : Binary64
  deriving DecidableEq, Repr

structure Arc where
  caller : Frame
  callee : Frame
  count : Int
  share : Binary64
  deriving DecidableEq, Repr

/-- The selected functions and edges, most frequent first. -/
structure View where
  total : Int
  rows : List Row
  arcs : List Arc
  deriving DecidableEq, Repr

def defaultThreshold : Int := 22

/-- The functions that occur most often. A negative number leaves out that many at the end. -/
def selectTop (functions : Tally Frame) (n : Int) : List (Frame × Int) :=
  slice functions.ranked none (some n)

def rowsOf (total : Int) (ranked : List (Frame × Int)) : Except BuildError (List Row) :=
  ranked.mapM fun (name, count) => do return ⟨name, count, ← share count total⟩

def edgesAmong (names : List Frame) (edges : Tally Edge) : Tally Edge :=
  ⟨edges.entries.filter fun e => names.contains e.1.1 && names.contains e.1.2,
    edges.nodup.sublist (List.filter_sublist.map Prod.fst)⟩

/-- The report of a pass with the functions that occur most often; the edges among them are left out of
a histogram. -/
def build (counts : Counts) (threshold : Int) (withEdges : Bool) : Except BuildError View := do
  if threshold < 1 then throw (.threshold threshold)
  let selected := selectTop counts.functions threshold
  let rows ← rowsOf counts.total selected
  let kept := if withEdges then (edgesAmong (selected.map Prod.fst) counts.edges).ranked else []
  let arcs ← kept.mapM fun ((caller, callee), count) => do
    return Arc.mk caller callee count (← share count counts.total)
  return ⟨counts.total, rows, arcs⟩

end StackQuery.Report
