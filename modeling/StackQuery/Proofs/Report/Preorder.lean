import StackQuery.Proofs.Report.PrefixTree

/-!
# Call trees in preorder

The nodes of a call tree are listed with the paths that lead to them: each before those below it, and all that is
below it before the next of its siblings, which are ranked by decreasing totals and, where totals are equal, by who
was seen first. Every path that leads down from the root is listed once, and of any two paths the order is known
from where they part.
-/
namespace StackQuery.Report

namespace CallNode

/-- Of two siblings the first has the greater total, or the same one and was seen first. -/
def Outranks (siblings : List CallNode) (a b : CallNode) : Prop :=
  b.total < a.total ∨ a.total = b.total ∧ [a, b].Sublist siblings

variable {root node target : CallNode} {path : List Frame}

theorem reaches_iff : node.Reaches path target ↔
    path = [] ∧ target = node ∨
      ∃ child ∈ node.children, ∃ rest, path = child.name :: rest ∧ child.Reaches rest target := by
  constructor
  · intro h
    cases h with
    | here => exact .inl ⟨rfl, rfl⟩
    | down isChild onward => exact .inr ⟨_, isChild, _, rfl, onward⟩
  · rintro (⟨rfl, rfl⟩ | ⟨child, hchild, rest, rfl, honward⟩)
    · exact .here _
    · exact .down hchild honward

theorem Reaches.trans {rest : List Frame} (h : root.Reaches path node) (honward : node.Reaches rest target) :
    root.Reaches (path ++ rest) target := by
  induction h with
  | here => exact honward
  | down isChild _ ih => exact .down isChild (ih honward)

end CallNode

open CallNode

/-- A node with the path that leads to it. -/
@[ext]
structure Visit where
  path : List Frame
  node : CallNode

namespace Visit

/-- The children of the root are at level one. -/
def level (v : Visit) : Nat := v.path.length

/-- The children of a node by rank. -/
def next (v : Visit) : List Visit := (ranked v.node.children).map fun child => ⟨v.path ++ [child.name], child⟩

theorem nodes_next (v : Visit) : v.next.map node = ranked v.node.children := by
  rw [next, List.map_map]
  exact List.map_id _

theorem mem_next {v w : Visit} :
    w ∈ v.next ↔ ∃ child ∈ v.node.children, w = ⟨v.path ++ [child.name], child⟩ := by
  rw [next, List.mem_map]
  simp only [(ranked_perm v.node.children).mem_iff, eq_comm]

/-- Visits, each with all that is below its node behind it. -/
def preorder : List Visit → List Visit
  | [] => []
  | v :: rest => v :: (preorder v.next ++ preorder rest)
termination_by visits => sizeEach (visits.map node)
decreasing_by
  · have hsize := v.node.size_eq
    have hranked := sizeEach_ranked v.node.children
    rw [nodes_next, List.map_cons, sizeEach]
    omega
  · have hsize := v.node.size_eq
    rw [List.map_cons, sizeEach]
    omega

theorem mem_preorder_iff {visits : List Visit} {w : Visit} :
    w ∈ preorder visits ↔ ∃ v ∈ visits, ∃ rest, v.node.Reaches rest w.node ∧ w.path = v.path ++ rest := by
  fun_induction preorder visits with
  | case1 => simp
  | case2 v visits ihNext ihRest =>
    have hbelow : w = v ∨ w ∈ preorder v.next ↔ ∃ rest, v.node.Reaches rest w.node ∧ w.path = v.path ++ rest := by
      rw [ihNext]
      constructor
      · rintro (rfl | ⟨u, hu, rest, hreaches, hpath⟩)
        · exact ⟨[], .here _, (List.append_nil _).symm⟩
        · obtain ⟨child, hchild, rfl⟩ := mem_next.mp hu
          exact ⟨child.name :: rest, .down hchild hreaches, hpath.trans (List.append_assoc _ _ _)⟩
      · rintro ⟨rest, hreaches, hpath⟩
        obtain ⟨rfl, hnode⟩ | ⟨child, hchild, rest, rfl, honward⟩ := reaches_iff.mp hreaches
        · exact .inl (Visit.ext (hpath.trans (List.append_nil _)) hnode)
        · exact .inr ⟨_, mem_next.mpr ⟨child, hchild, rfl⟩, rest, honward, hpath.trans (by simp)⟩
    rw [List.mem_cons, List.mem_append, ← or_assoc, hbelow, ihRest]
    simp only [List.mem_cons, or_and_right, exists_or, exists_eq_left]

theorem mem_preorder_next_iff {v w : Visit} :
    w ∈ preorder v.next ↔ ∃ rest, rest ≠ [] ∧ v.node.Reaches rest w.node ∧ w.path = v.path ++ rest := by
  rw [mem_preorder_iff]
  constructor
  · rintro ⟨u, hu, rest, hreaches, hpath⟩
    obtain ⟨child, hchild, rfl⟩ := mem_next.mp hu
    exact ⟨child.name :: rest, List.cons_ne_nil _ _, .down hchild hreaches, hpath.trans (List.append_assoc _ _ _)⟩
  · rintro ⟨rest, hne, hreaches, hpath⟩
    obtain ⟨hnil, -⟩ | ⟨child, hchild, rest, rfl, honward⟩ := reaches_iff.mp hreaches
    · exact absurd hnil hne
    · exact ⟨_, mem_next.mpr ⟨child, hchild, rfl⟩, rest, honward, hpath.trans (by simp)⟩

theorem reaches_of_mem_next {root : CallNode} {v w : Visit} (hv : root.Reaches v.path v.node) (hw : w ∈ v.next) :
    w.path ≠ [] ∧ root.Reaches w.path w.node := by
  obtain ⟨child, hchild, rfl⟩ := mem_next.mp hw
  exact ⟨by simp, hv.trans (.down hchild (.here child))⟩

end Visit

namespace CallNode

variable {root : CallNode} {v w : Visit}

/-- Two paths part below a node, and where they do the first one goes to the sibling that outranks the other. -/
def Beside (root : CallNode) (v w : Visit) : Prop :=
  ∃ fork node a b, root.Reaches fork node ∧ Outranks node.children a b ∧ a.name ≠ b.name ∧
    fork ++ [a.name] <+: v.path ∧ fork ++ [b.name] <+: w.path

/-- A visit comes before another one if it is on the way there, or if its path goes to the better sibling. -/
def Precedes (root : CallNode) (v w : Visit) : Prop := v.path <+: w.path ∧ v.path ≠ w.path ∨ root.Beside v w

theorem Precedes.path_ne (h : root.Precedes v w) : v.path ≠ w.path := by
  obtain ⟨-, hne⟩ | ⟨fork, node, a, b, -, -, hname, hleft, hright⟩ := h
  · exact hne
  · intro heq
    rw [← heq] at hright
    have hsame := List.prefix_of_prefix_length_le hleft hright (by simp)
    have hfork := hsame.eq_of_length (by simp)
    exact hname (List.singleton_inj.mp (List.append_cancel_left hfork))

/-- All paths that lead down from a node, each with where it leads, in the order of the visits. -/
structure IsPreorder (root : CallNode) (visits : List Visit) : Prop where
  reached : ∀ v, v ∈ visits ↔ v.path ≠ [] ∧ root.Reaches v.path v.node
  ordered : visits.Pairwise root.Precedes

theorem IsPreorder.nodup {visits : List Visit} (h : root.IsPreorder visits) : (visits.map Visit.path).Nodup := by
  rw [List.Nodup, List.pairwise_map]
  exact h.ordered.imp Precedes.path_ne

end CallNode

namespace CallTree

/-- The nodes of a tree below its root. -/
def visits (tree : CallTree) : List Visit := Visit.preorder (Visit.next ⟨[], tree.root⟩)

end CallTree

end StackQuery.Report
