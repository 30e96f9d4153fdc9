import StackQuery.Report.CallTree
import StackQuery.Report.Leaves

/-!
# Reports as text

Percentages have one decimal place and seconds two. Columns are aligned to the right; a call tree is
indented by level; a graph is written in the DOT language, with quotes and backslashes of labels escaped.
-/
namespace StackQuery.Report

def percentPlaces : Nat := 1

def secondsPlaces : Nat := 2

def percentText (value : Binary64) : String := value.toFixed percentPlaces ++ "%"

def secondsText (count : Int) (frequency : Number) : Except ArithmeticError String :=
  (Number.div (.int count) frequency).map fun seconds => seconds.toFixed secondsPlaces ++ "s"

def aligned (cells : List String) : List String :=
  let width := (cells.map String.length).foldl max 0
  cells.map fun cell => String.ofList (List.replicate (width - cell.length) ' ') ++ cell

def joinLines (lines : List String) : String := "\n".intercalate lines

def Summary.text (s : Summary) (query : String) : Except ArithmeticError String := do
  let matched ← s.matchedShare
  let unmatched ← s.unmatchedShare
  return joinLines [
    "Matcher: " ++ query,
    "Matches in " ++ percentText matched ++ " of samples.",
    "Non-matches in " ++ percentText unmatched ++ " of samples."]

/-- The text of a histogram; a sampling frequency adds a column of seconds. -/
def View.histogramText (v : View) (frequency : Option Number) : Except ArithmeticError String := do
  let shares := aligned (v.rows.map fun row => percentText row.share)
  let names := v.rows.map Row.name
  match frequency with
  | none => return joinLines (shares.zipWith (fun share name => share ++ "  " ++ name) names)
  | some frequency =>
    let times := aligned (← v.rows.mapM fun row => secondsText row.count frequency)
    let cells := shares.zipWith (fun share time => share ++ "  " ++ time) times
    return joinLines (cells.zipWith (fun cell name => cell ++ "  " ++ name) names)

def exhaustedLabel : String := "had no leaf function worth mentioning"

def FlatView.text (v : FlatView) : Except ArithmeticError String := do
  let rows := v.rows.map fun row => (percentText row.share, row.name)
  let rows ←
    if v.exhausted == 0 then pure rows
    else pure (rows ++ [(percentText (← v.exhaustedShare), exhaustedLabel)])
  return joinLines ((aligned (rows.map Prod.fst)).zipWith (fun cell label => cell ++ "  " ++ label)
    (rows.map Prod.snd))

/-- Limits on the nodes of a tree that are written. -/
structure TreeLimits where
  depth : Option Int
  cutoff : Number

def TreeLimits.elides (limits : TreeLimits) (level : Nat) : Bool :=
  match limits.depth with
  | some depth => decide (depth ≤ Int.ofNat level + 1)
  | none => false

def nodeLine (level : Nat) (name : Frame) (total own : Binary64) : String :=
  String.join (List.replicate level ": ") ++ "| " ++ name ++ " (" ++ percentText total ++ " total, " ++
    percentText own ++ " self)"

/-- Nodes that wait to be written, with their levels; the next one comes first. -/
abbrev Pending := List (CallNode × Nat)

namespace Pending

/-- Puts nodes of a level on top, the last one first, so that the first one is next. -/
def push (level : Nat) (nodes : List CallNode) (pending : Pending) : Pending :=
  nodes.reverse.foldl (fun pending node => (node, level) :: pending) pending

def size (pending : Pending) : Nat := CallNode.sizeEach (pending.map Prod.fst)

theorem push_eq (level : Nat) (nodes : List CallNode) (pending : Pending) :
    push level nodes pending = nodes.map (·, level) ++ pending := by
  rw [push, List.foldl_reverse]
  induction nodes with
  | nil => rfl
  | cons node rest ih => rw [List.foldr_cons, ih, List.map_cons, List.cons_append]

theorem size_push (level : Nat) (nodes : List CallNode) (pending : Pending) :
    (push level nodes pending).size = CallNode.sizeEach nodes + pending.size := by
  have hnodes : (nodes.map (·, level)).map Prod.fst = nodes := by
    rw [List.map_map]
    exact List.map_id nodes
  rw [push_eq, size, size, List.map_append, hnodes, CallNode.sizeEach_append]

end Pending

/-- Writes the line of the next node and puts its children in its place, until no node waits. A node below the
cutoff is left out with all that is below it. -/
def CallTree.write (tree : CallTree) (limits : TreeLimits) (lines : Array String) :
    Pending → Except ArithmeticError (Array String)
  | [] => .ok lines
  | (node, level) :: pending => do
    let totalShare ← tree.totalShare node
    if (Number.float totalShare).lt limits.cutoff then tree.write limits lines pending
    else
      let line := nodeLine level node.name totalShare (← tree.ownShare node)
      let children := CallNode.ranked node.children
      if !children.isEmpty && limits.elides level then tree.write limits (lines.push (line ++ " [...]")) pending
      else tree.write limits (lines.push line) (Pending.push (level + 1) children pending)
termination_by pending => pending.size
decreasing_by
  all_goals
    have hnext : Pending.size ((node, level) :: pending) = node.size + Pending.size pending := rfl
    have hsize := node.size_eq
    have hranked := CallNode.sizeEach_ranked node.children
    have hpush := Pending.size_push (level + 1) (CallNode.ranked node.children) pending
    omega

def CallTree.text (tree : CallTree) (limits : TreeLimits) : Except ArithmeticError String :=
  (tree.write limits #[] (Pending.push 0 (CallNode.ranked tree.root.children) [])).map fun lines =>
    joinLines lines.toList

def escapeLabel : List Char → List Char
  | [] => []
  | c :: rest =>
    if c = '\\' ∨ c = '"' then '\\' :: c :: escapeLabel rest else c :: escapeLabel rest

def quotedLabel (label : String) : String :=
  String.ofList ('"' :: escapeLabel label.toList ++ ['"'])

def nodeId (names : List Frame) (name : Frame) : String := "n" ++ toString (names.idxOf name)

def View.dotText (v : View) : String :=
  let names := v.rows.map Row.name
  let rows := v.rows.map fun row =>
    "  " ++ nodeId names row.name ++ " [label=" ++
      quotedLabel (row.name ++ " (" ++ percentText row.share ++ ")") ++ "];"
  let arcs := v.arcs.map fun arc =>
    "  " ++ nodeId names arc.caller ++ " -> " ++ nodeId names arc.callee ++ " [label=" ++
      quotedLabel (percentText arc.share) ++ "];"
  joinLines (["digraph G \x7b", "  node [ shape=box ];"] ++ rows ++ arcs ++ ["\x7d"])

end StackQuery.Report
