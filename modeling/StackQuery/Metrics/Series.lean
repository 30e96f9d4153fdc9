import StackQuery.Counts.OrderedMap
import StackQuery.Number.Basic

/-!
# Labelled series

A counter and a histogram keep one series per set of labels. Label sets are told apart by their pairs in
order of names, whatever the order in which they were given.
-/
namespace StackQuery.Metrics

/-- A set of labels: pairs of name and value in order of names. -/
abbrev LabelKey := List (String × String)

def labelKey (pairs : List (String × String)) : LabelKey :=
  pairs.mergeSort fun a b => decide (a.1 ≤ b.1)

def labelText (key : LabelKey) : String :=
  ",".intercalate (key.map fun p => p.1 ++ "=" ++ p.2)

inductive SeriesError where
  | decrease
  | arithmetic (error : ArithmeticError)
  deriving DecidableEq, Repr

def SeriesError.message : SeriesError → String
  | .decrease => "Counter can only increase"
  | .arithmetic error => error.message

/-- Sums that only increase, by label set. -/
structure Counter where
  values : OrderedMap LabelKey Binary64

namespace Counter

def empty : Counter := ⟨.empty⟩

/-- Increases the sum of a label set. A series comes into being even if the amount is too large to be
added. -/
def increase (c : Counter) (amount : Number) (key : LabelKey) : Except SeriesError Unit × Counter :=
  if amount.lt (.int 0) then (.error .decrease, c)
  else
    let sum := c.values.getD key (Binary64.zero false)
    match amount.toFloat with
    | .ok x => (.ok (), ⟨c.values.insert key (sum.add x)⟩)
    | .error e => (.error (.arithmetic e), ⟨c.values.insert key sum⟩)

/-- The sum of a label set; the whole number zero if it was never increased. -/
def read (c : Counter) (key : LabelKey) : Number :=
  match c.values.get? key with
  | some x => .float x
  | none => .int 0

end Counter

structure Histogram where
  observations : OrderedMap LabelKey (List Number)

/-- What a series of observations amounts to. -/
structure Stats where
  count : Nat
  sum : Number
  min : Number
  max : Number
  mean : Number
  deriving DecidableEq, Repr

namespace Stats

def none : Stats := ⟨0, .int 0, .int 0, .int 0, .int 0⟩

/-- The statistics of observations. Sums are taken from left to right; of equal extremes the first
stands. -/
def of : List Number → Except ArithmeticError Stats
  | [] => .ok none
  | first :: rest => do
    let values := first :: rest
    let sum ← values.foldlM Number.add (.int 0)
    let least := rest.foldl (fun m x => if x.lt m then x else m) first
    let greatest := rest.foldl (fun m x => if m.lt x then x else m) first
    let mean ← sum.div (.int (Int.ofNat values.length))
    return ⟨values.length, sum, least, greatest, .float mean⟩

end Stats

namespace Histogram

def empty : Histogram := ⟨.empty⟩

def observe (h : Histogram) (value : Number) (key : LabelKey) : Histogram :=
  ⟨h.observations.insert key (h.observations.getD key [] ++ [value])⟩

def stats (h : Histogram) (key : LabelKey) : Except ArithmeticError Stats :=
  Stats.of (h.observations.getD key [])

/-- The statistics of every label set, by the text of the set. Sets of one text share the place of the
first and show the statistics of the last. -/
def allStats (h : Histogram) : Except ArithmeticError (OrderedMap String Stats) := do
  let entries ← h.observations.keys.mapM fun key => do return (labelText key, ← h.stats key)
  return OrderedMap.ofList entries

end Histogram

end StackQuery.Metrics
