import StackQuery.Counts.OrderedMap
import StackQuery.Query.Basic

/-!
# Counts of a pass

A pass over samples counts the samples, those that matched, the functions and the caller-callee pairs
that occur in the samples fed to it, and, where a report needs them, the fed samples as whole stacks.
-/
namespace StackQuery

abbrev Edge := Frame × Frame

/-- What a pass over samples has counted. -/
structure Counts where
  total : Int
  matched : Int
  functions : Tally Frame
  edges : Tally Edge
  «stacks» : Tally (List Frame)

namespace Counts

def zero : Counts := ⟨0, 0, .empty, .empty, .empty⟩

def unmatched (c : Counts) : Int := c.total - c.matched

def pairs (frames : List Frame) : List Edge := frames.zip frames.tail

def addEach {κ : Type} [DecidableEq κ] (t : Tally κ) (keys : List κ) : Tally κ :=
  keys.foldl (fun t k => t.add k 1) t

def addFrames (c : Counts) (frames : List Frame) : Counts :=
  { c with
    functions := addEach c.functions frames.eraseDups
    edges := addEach c.edges (pairs frames).eraseDups }

def addStack (c : Counts) (frames : List Frame) : Counts :=
  { c with «stacks» := c.stacks.add frames 1 }

/-- The counts of two passes together; keys known to the first come first. -/
def merge (c d : Counts) : Counts :=
  { total := c.total + d.total
    matched := c.matched + d.matched
    functions := c.functions.addAll d.functions
    edges := c.edges.addAll d.edges
    «stacks» := c.stacks.addAll d.stacks }

def same (c d : Counts) : Bool :=
  c.total == d.total && c.matched == d.matched && c.functions.sameEntries d.functions &&
    c.edges.sameEntries d.edges && c.stacks.sameEntries d.stacks

theorem pairs_nil : pairs [] = [] := rfl

theorem merge_zero (c : Counts) : c.merge zero = c := by
  cases c
  simp [merge, zero, Tally.addAll, OrderedMap.empty]

end Counts

end StackQuery
