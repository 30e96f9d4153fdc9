import StackQuery.Report.View

/-!
# Call trees

The stacks of a pass as a tree of common beginnings. A node counts the samples that pass through it and
those that end at it. Children stand in the order in which they were first seen; ranking puts them in
order of decreasing totals and leaves equal totals in place.
-/
namespace StackQuery.Report

inductive CallNode where
  | mk (name : Frame) (total own : Int) (children : List CallNode)

namespace CallNode

def name : CallNode → Frame
  | mk name _ _ _ => name

def total : CallNode → Int
  | mk _ total _ _ => total

def own : CallNode → Int
  | mk _ _ own _ => own

def children : CallNode → List CallNode
  | mk _ _ _ children => children

def fresh (name : Frame) : CallNode := mk name 0 0 []

/-- Changes the child of a name; a new child comes last. -/
def updateChild (name : Frame) (change : CallNode → CallNode) : List CallNode → List CallNode
  | [] => [change (fresh name)]
  | child :: rest =>
    if child.name = name then change child :: rest else child :: updateChild name change rest

def addPath : List Frame → Int → CallNode → CallNode
  | [], count, mk name total own children => mk name (total + count) (own + count) children
  | frame :: rest, count, mk name total own children =>
    mk name (total + count) own (updateChild frame (addPath rest count) children)

def ranked (nodes : List CallNode) : List CallNode :=
  nodes.mergeSort fun a b => decide (b.total ≤ a.total)

mutual

def size : CallNode → Nat
  | mk _ _ _ children => sizeEach children + 1

def sizeEach : List CallNode → Nat
  | [] => 0
  | node :: rest => node.size + sizeEach rest

end

theorem size_eq (node : CallNode) : node.size = sizeEach node.children + 1 := by
  cases node
  rw [size]
  rfl

theorem sizeEach_append (nodes others : List CallNode) :
    sizeEach (nodes ++ others) = sizeEach nodes + sizeEach others := by
  induction nodes with
  | nil => simp [sizeEach]
  | cons node rest ih => rw [List.cons_append, sizeEach, sizeEach, ih, Nat.add_assoc]

theorem sizeEach_perm {nodes others : List CallNode} (h : nodes.Perm others) : sizeEach nodes = sizeEach others := by
  induction h with
  | nil => rfl
  | cons node _ ih => rw [sizeEach, sizeEach, ih]
  | swap a b rest => rw [sizeEach, sizeEach, sizeEach, sizeEach, Nat.add_left_comm]
  | trans _ _ ih ih' => exact ih.trans ih'

theorem ranked_perm (nodes : List CallNode) : (ranked nodes).Perm nodes := List.mergeSort_perm _ _

theorem sizeEach_ranked (nodes : List CallNode) : sizeEach (ranked nodes) = sizeEach nodes :=
  sizeEach_perm (ranked_perm nodes)

@[simp] theorem total_addPath (path : List Frame) (count : Int) (node : CallNode) :
    (addPath path count node).total = node.total + count := by
  cases node
  cases path <;> rfl

@[simp] theorem name_addPath (path : List Frame) (count : Int) (node : CallNode) :
    (addPath path count node).name = node.name := by
  cases node
  cases path <;> rfl

end CallNode

/-- A call tree under a nameless root. -/
structure CallTree where
  total : Int
  root : CallNode
  inverted : Bool

namespace CallTree

def build (counts : Counts) (inverted : Bool) : CallTree :=
  let add (root : CallNode) (entry : List Frame × Int) : CallNode :=
    root.addPath (if inverted then entry.1.reverse else entry.1) entry.2
  ⟨counts.total, counts.stacks.entries.foldl add (CallNode.fresh ""), inverted⟩

def totalShare (tree : CallTree) (node : CallNode) : Except ArithmeticError Binary64 :=
  percent node.total tree.total

def ownShare (tree : CallTree) (node : CallNode) : Except ArithmeticError Binary64 :=
  percent node.own tree.total

end CallTree

end StackQuery.Report
