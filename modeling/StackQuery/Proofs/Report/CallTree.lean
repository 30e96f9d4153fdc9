import StackQuery.Report.CallTree

/-!
# Nodes of a call tree

A child is found by its name, and changing the child of one name leaves those of other names as they are. A path
leads down from a node along the names of children.
-/
namespace StackQuery.Report

namespace CallNode

@[simp] theorem name_fresh (frame : Frame) : (fresh frame).name = frame := rfl

def child? (frame : Frame) (children : List CallNode) : Option CallNode :=
  children.find? fun child => child.name = frame

/-- The node that a path leads to. -/
def at? : (path : List Frame) → CallNode → Option CallNode
  | [], node => some node
  | frame :: rest, node => (child? frame node.children).bind (at? rest)

section
variable {change : CallNode → CallNode}

theorem child?_updateChild (hchange : ∀ node, (change node).name = node.name) (name frame : Frame)
    (children : List CallNode) :
    child? frame (updateChild name change children) =
      if name = frame then some (change ((child? name children).getD (fresh name)))
      else child? frame children := by
  induction children with
  | nil => simp [updateChild, child?, hchange]
  | cons child rest ih =>
    unfold child? at ih ⊢
    by_cases hchild : child.name = name
    · by_cases hframe : name = frame
      · simp [updateChild, hchange, hchild, hframe]
      · simp [updateChild, hchange, hchild, hframe]
    · rw [updateChild, if_neg hchild]
      by_cases hframe : child.name = frame
      · have hname : name ≠ frame := fun h => hchild (hframe.trans h.symm)
        simp [hframe, hname]
      · simp [hframe, hchild, ih]

theorem names_updateChild (hchange : ∀ node, (change node).name = node.name) (name : Frame)
    (children : List CallNode) :
    (updateChild name change children).map CallNode.name =
      if name ∈ children.map CallNode.name then children.map CallNode.name
      else children.map CallNode.name ++ [name] := by
  induction children with
  | nil => simp [updateChild, hchange]
  | cons child rest ih =>
    by_cases hchild : child.name = name
    · simp [updateChild, hchange, hchild]
    · have hname : name ≠ child.name := fun h => hchild h.symm
      simp only [updateChild, hchild, if_false, List.map_cons, ih, List.mem_cons, hname, false_or]
      split <;> simp

end

theorem child?_of_mem {children : List CallNode} (hnames : (children.map name).Nodup) {child : CallNode}
    (hchild : child ∈ children) : child? child.name children = some child := by
  induction children with
  | nil => cases hchild
  | cons first rest ih =>
    obtain ⟨hfirst, hrest⟩ := List.nodup_cons.mp hnames
    rcases List.mem_cons.mp hchild with rfl | hchild
    · simp [child?]
    · have hne : first.name ≠ child.name := fun h => hfirst (h ▸ List.mem_map_of_mem hchild)
      unfold child? at ih ⊢
      rw [List.find?_cons_of_neg (by simpa using hne), ih hrest hchild]

/-- A path leads down from a node. -/
inductive Reaches : CallNode → List Frame → CallNode → Prop where
  | here (node : CallNode) : node.Reaches [] node
  | down {node child target : CallNode} {path : List Frame} (isChild : child ∈ node.children)
      (onward : child.Reaches path target) : node.Reaches (child.name :: path) target

theorem reaches_of_at? {path : List Frame} {node target : CallNode} (h : node.at? path = some target) :
    node.Reaches path target := by
  induction path generalizing node with
  | nil =>
    obtain rfl := Option.some.inj h
    exact .here _
  | cons frame path ih =>
    obtain ⟨child, hfind, honward⟩ := Option.bind_eq_some_iff.mp h
    have hname : child.name = frame := by simpa [child?] using List.find?_some hfind
    rw [← hname]
    exact .down (List.mem_of_find?_eq_some hfind) (ih honward)

theorem Reaches.getLast? {node target : CallNode} {path : List Frame} (h : node.Reaches path target)
    (hpath : path ≠ []) : path.getLast? = some target.name := by
  induction h with
  | here node => cases hpath rfl
  | @down node child target path isChild onward ih =>
    cases onward with
    | here => rfl
    | down => rw [List.getLast?_cons_cons]; exact ih (List.cons_ne_nil _ _)

end CallNode

namespace CallTree

/-- The path along which a stack is added. -/
def direction (inverted : Bool) (stack : List Frame) : List Frame :=
  if inverted then stack.reverse else stack

theorem mem_direction {inverted : Bool} {stack : List Frame} {frame : Frame} :
    frame ∈ direction inverted stack ↔ frame ∈ stack := by
  cases inverted <;> simp [direction]

end CallTree

end StackQuery.Report
