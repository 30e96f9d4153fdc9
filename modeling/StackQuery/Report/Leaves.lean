import StackQuery.Report.View

/-!
# Flat profiles

Samples are grouped by their innermost frame. A leaf whose function occurs in too few samples is dropped,
and its samples go to the next frame out; this repeats until every leaf that is left occurs often enough.
Samples that run out of frames are counted apart.
-/
namespace StackQuery.Report

/-- The samples by innermost frame and the frames around it, and those without a frame. -/
structure Leaves where
  groups : OrderedMap Frame (Tally (List Frame))
  exhausted : Int

namespace Leaves

def empty : Leaves := ⟨.empty, 0⟩

def add (l : Leaves) (stack : List Frame) (count : Int) : Leaves :=
  match stack.getLast? with
  | none => { l with exhausted := l.exhausted + count }
  | some leaf =>
    { l with groups := l.groups.insert leaf ((l.groups.getD leaf .empty).add stack.dropLast count) }

def addAll (l : Leaves) (tally : Tally (List Frame)) : Leaves :=
  tally.entries.foldl (fun l e => l.add e.1 e.2) l

def drop (l : Leaves) (leaf : Frame) : Leaves :=
  { l with groups := l.groups.erase leaf }.addAll (l.groups.getD leaf .empty)

def failing {ε : Type} (rare : Frame → Except ε Bool) (l : Leaves) : Except ε (List Frame) :=
  l.groups.keys.filterM rare

/-- Drops rare leaves round by round. Each round takes a frame off every stack under a rare leaf, so the
length of the longest stack bounds the number of rounds. -/
def settle {ε : Type} (rare : Frame → Except ε Bool) : (rounds : Nat) → Leaves → Except ε Leaves
  | 0, l => .ok l
  | rounds + 1, l => do
    match ← l.failing rare with
    | [] => return l
    | leaves => settle rare rounds (leaves.foldl drop l)

def sums (l : Leaves) : Tally Frame := l.groups.mapValues fun contexts => contexts.values.foldl (· + ·) 0

theorem add_nil (l : Leaves) (count : Int) :
    l.add [] count = { l with exhausted := l.exhausted + count } := rfl

end Leaves

def longest (tally : Tally (List Frame)) : Nat := (tally.keys.map List.length).foldl max 0

/-- The leaves that are left, most frequent first, and the samples without one. -/
structure FlatView where
  total : Int
  rows : List Row
  exhausted : Int
  deriving DecidableEq, Repr

/-- The share of the samples without a leaf, which nobody computes unless it is shown. -/
def FlatView.exhaustedShare (v : FlatView) : Except ArithmeticError Binary64 := percent v.exhausted v.total

def isPercentage (x : Number) : Bool := Number.le (.int 0) x && x.le (.int 100)

def isRare (counts : Counts) (cutoff : Number) (name : Frame) : Except BuildError Bool := do
  let share ← share (counts.functions.count name) counts.total
  return (Number.float share).lt cutoff

def flatten (counts : Counts) (cutoff : Number) : Except BuildError FlatView := do
  if !isPercentage cutoff then throw (.cutoff cutoff)
  let start := Leaves.empty.addAll counts.stacks
  let leaves ← start.settle (isRare counts cutoff) (longest counts.stacks + 1)
  let rows ← rowsOf counts.total leaves.sums.ranked
  return ⟨counts.total, rows, leaves.exhausted⟩

end StackQuery.Report
