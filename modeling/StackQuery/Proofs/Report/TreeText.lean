import StackQuery.Proofs.Number.Nearest
import StackQuery.Proofs.Report.Preorder
import StackQuery.Proofs.Report.Selection
import StackQuery.Report.Text

/-!
# The text of a call tree

The nodes that wait to be written are a stack, and what is put on it is what is below the node just written. So the
lines stand in preorder. A node below the cutoff takes all that is below it away, and so does a node at the last
level: where counts are not negative, no node has a greater total than one above it, so that each node that is left
out is out of the limits itself. With limits the lines are those without them, as far as their nodes are within,
and nodes of the last level are marked if they have children.
-/
namespace StackQuery.Report

/-- No node ends more samples than pass through it, and no more of them pass through a node below. -/
structure CallNode.Shrinks (root : CallNode) : Prop where
  own_nonneg : ∀ path node, root.Reaches path node → 0 ≤ node.own
  own_le_total : ∀ path node, root.Reaches path node → node.own ≤ node.total
  total_le : ∀ path node rest below, root.Reaches path node → node.Reaches rest below → below.total ≤ node.total

namespace TreeLimits

/-- A level is not beyond the last one. -/
def admits (limits : TreeLimits) (level : Nat) : Bool := limits.depth.all fun depth => decide (Int.ofNat level ≤ depth)

/-- A node at the last level that has children. -/
def cutsBelow (limits : TreeLimits) (v : Visit) : Bool :=
  limits.depth == some (Int.ofNat v.level) && !v.node.children.isEmpty

/-- What is written behind the line of a node. -/
def mark (limits : TreeLimits) (v : Visit) : String := if limits.cutsBelow v then " [...]" else ""

theorem not_admits_of_cutsBelow {limits : TreeLimits} {v : Visit} (h : limits.cutsBelow v = true) {level : Nat}
    (hlt : v.level < level) : limits.admits level = false := by
  rw [cutsBelow, Bool.and_eq_true, beq_iff_eq] at h
  rw [admits, h.1]
  exact decide_eq_false (by simp only [Int.ofNat_eq_natCast]; omega)

theorem admits_next {limits : TreeLimits} {v w : Visit} (hv : limits.admits v.level = true)
    (h : limits.cutsBelow v = false) (hw : w ∈ v.next) : limits.admits w.level = true := by
  obtain ⟨child, hchild, rfl⟩ := Visit.mem_next.mp hw
  obtain ⟨_ | depth, cutoff⟩ := limits
  · rfl
  · have hdepth : (Int.ofNat v.level : Int) ≤ depth := of_decide_eq_true hv
    have hsome : v.node.children.isEmpty = false := by
      rw [List.isEmpty_eq_false_iff]
      exact List.ne_nil_of_mem hchild
    have hne : depth ≠ Int.ofNat v.level := by
      rintro rfl
      simp [cutsBelow, hsome] at h
    refine decide_eq_true ?_
    simp only [Visit.level, List.length_append, List.length_singleton, Int.ofNat_eq_natCast] at hdepth hne ⊢
    omega

/-- Within the limits, the loop tells the last level as it counts levels, from zero on. -/
theorem elides_eq_cutsBelow {limits : TreeLimits} {v : Visit} (hpath : v.path ≠ [])
    (hv : limits.admits v.level = true) :
    (!(CallNode.ranked v.node.children).isEmpty && limits.elides (v.level - 1)) = limits.cutsBelow v := by
  have hempty := (CallNode.ranked_perm v.node.children).isEmpty_eq
  have hpositive : 0 < v.level := List.length_pos_iff.mpr hpath
  rw [hempty, Bool.and_comm, cutsBelow]
  congr 1
  obtain ⟨_ | depth, cutoff⟩ := limits
  · rfl
  · have hdepth : (Int.ofNat v.level : Int) ≤ depth := of_decide_eq_true hv
    rw [elides, Bool.eq_iff_iff, decide_eq_true_eq, beq_iff_eq, Option.some_inj]
    simp only [Int.ofNat_eq_natCast] at hdepth ⊢
    omega

end TreeLimits

namespace CallTree

open CallNode (Shrinks)

/-- The percentage of a node is below the cutoff. -/
def isBelow (tree : CallTree) (limits : TreeLimits) (node : CallNode) : Bool :=
  match tree.totalShare node with
  | .ok share => (Number.float share).lt limits.cutoff
  | .error _ => false

/-- A node is within the limits by its own level and its own percentage. -/
def shows (tree : CallTree) (limits : TreeLimits) (v : Visit) : Bool :=
  limits.admits v.level && !tree.isBelow limits v.node

/-- The line of a node, which is indented by its level less one. -/
def line (tree : CallTree) (v : Visit) : Except ArithmeticError String := do
  return nodeLine (v.level - 1) v.node.name (← tree.totalShare v.node) (← tree.ownShare v.node)

/-- The line of a node with its mark. -/
def markedLine (tree : CallTree) (limits : TreeLimits) (v : Visit) : Except ArithmeticError String :=
  (tree.line v).map (· ++ limits.mark v)

variable {tree : CallTree} {limits : TreeLimits} {v w : Visit}

/-- What has no greater total than a node below the cutoff is below it, too. -/
theorem isBelow_of_total_le {node below : CallNode} (hnonneg : 0 ≤ below.total) (hle : below.total ≤ node.total)
    (h : tree.isBelow limits node = true) : tree.isBelow limits below = true := by
  rw [isBelow] at h ⊢
  cases hshare : tree.totalShare node with
  | error e =>
    rw [hshare] at h
    cases h
  | ok share =>
    rw [hshare] at h
    have hfits : tree.total ≤ 0 ∨ HasDatum below.total ∧ HasDatum tree.total :=
      (exists_percent_iff.mp ⟨share, hshare⟩).imp_right fun ⟨hnode, htotal⟩ =>
        ⟨isInfinite_ofInt_of_le hnonneg hle hnode, htotal⟩
    obtain ⟨smaller, hsmaller⟩ := exists_percent_iff.mpr hfits
    have hpercent : tree.totalShare below = .ok smaller := hsmaller
    rw [hpercent]
    exact Number.lt_of_le_of_lt (percent_le_percent hnonneg hle hsmaller hshare) h

theorem not_shows_of_isBelow (hshrinks : tree.root.Shrinks) (hv : tree.root.Reaches v.path v.node)
    (h : tree.isBelow limits v.node = true) (hw : w ∈ Visit.preorder v.next) : tree.shows limits w = false := by
  obtain ⟨rest, -, honward, -⟩ := Visit.mem_preorder_next_iff.mp hw
  have hbelow := hv.trans honward
  have hnonneg : 0 ≤ w.node.total :=
    (hshrinks.own_nonneg _ _ hbelow).trans (hshrinks.own_le_total _ _ hbelow)
  rw [shows, isBelow_of_total_le hnonneg (hshrinks.total_le _ _ _ _ hv honward) h, Bool.not_true, Bool.and_false]

theorem not_shows_of_cutsBelow (h : limits.cutsBelow v = true) (hw : w ∈ Visit.preorder v.next) :
    tree.shows limits w = false := by
  obtain ⟨rest, hne, -, hpath⟩ := Visit.mem_preorder_next_iff.mp hw
  have hlevel : v.level < w.level := by
    have hpositive := List.length_pos_iff.mpr hne
    rw [Visit.level, Visit.level, hpath, List.length_append]
    omega
  rw [shows, TreeLimits.not_admits_of_cutsBelow h hlevel, Bool.false_and]

/-- A visit as it waits to be written, with its level counted from zero on. -/
def waiting (v : Visit) : CallNode × Nat := (v.node, v.level - 1)

theorem push_next (hpath : v.path ≠ []) (pending : Pending) :
    Pending.push (v.level - 1 + 1) (CallNode.ranked v.node.children) pending = v.next.map waiting ++ pending := by
  have hpositive : 0 < v.level := List.length_pos_iff.mpr hpath
  rw [Pending.push_eq, Visit.next, List.map_map]
  congr 1
  refine List.map_congr_left fun child _ => ?_
  simp only [Function.comp_apply, waiting, Visit.level, List.length_append, List.length_singleton] at hpositive ⊢
  congr 1
  omega

theorem write_cons (hpath : v.path ≠ []) (hv : limits.admits v.level = true) (lines : Array String)
    (pending : Pending) :
    tree.write limits lines (waiting v :: pending) =
      if tree.isBelow limits v.node then tree.write limits lines pending
      else tree.markedLine limits v >>= fun line => tree.write limits (lines.push line)
        (if limits.cutsBelow v then pending else v.next.map waiting ++ pending) := by
  rw [waiting, write, isBelow, markedLine, line]
  cases htotal : tree.totalShare v.node with
  | error e => rfl
  | ok total =>
    simp only [bind, Except.bind]
    by_cases hbelow : (Number.float total).lt limits.cutoff = true
    · rw [if_pos hbelow, if_pos hbelow]
    · rw [if_neg hbelow, if_neg hbelow]
      cases hown : tree.ownShare v.node with
      | error e => rfl
      | ok own =>
        simp only [TreeLimits.elides_eq_cutsBelow hpath hv, pure, Except.pure, Except.map, TreeLimits.mark,
          push_next hpath]
        cases limits.cutsBelow v <;> simp

/-- Visits that wait are written with all that is below them, and then what waits behind them. -/
theorem write_append (hshrinks : tree.root.Shrinks) {visits : List Visit}
    (hreaches : ∀ v ∈ visits, v.path ≠ [] ∧ tree.root.Reaches v.path v.node)
    (hadmits : ∀ v ∈ visits, limits.admits v.level = true) (lines : Array String) (pending : Pending) :
    tree.write limits lines (visits.map waiting ++ pending) =
      ((Visit.preorder visits).filter (tree.shows limits)).mapM (tree.markedLine limits) >>= fun written =>
        tree.write limits (lines ++ written.toArray) pending := by
  -- the induction is along the traversal: the stack holds what is next and what is left, one behind the other
  fun_induction Visit.preorder visits generalizing lines pending with
  | case1 => simp
  | case2 v visits ihNext ihRest =>
    obtain ⟨⟨hpath, hv⟩, hrestReaches⟩ := List.forall_mem_cons.mp hreaches
    obtain ⟨hwithin, hrestAdmits⟩ := List.forall_mem_cons.mp hadmits
    have hrest := ihRest hrestReaches hrestAdmits
    rw [List.map_cons, List.cons_append, write_cons hpath hwithin]
    by_cases hbelow : tree.isBelow limits v.node = true
    -- the loop passes over all below the node, and the filter finds nothing there
    · have hnone : (Visit.preorder v.next).filter (tree.shows limits) = [] :=
        List.filter_eq_nil_iff.mpr fun w hw => by simp [not_shows_of_isBelow hshrinks hv hbelow hw]
      have hself : tree.shows limits v = false := by rw [shows, hbelow, Bool.not_true, Bool.and_false]
      rw [if_pos hbelow, hrest, List.filter_cons_of_neg (by simp [hself]), List.filter_append, hnone, List.nil_append]
    · have hself : tree.shows limits v = true := by rw [shows, hwithin, Bool.eq_false_iff.mpr hbelow]; rfl
      rw [if_neg hbelow, List.filter_cons_of_pos hself, List.filter_append, List.mapM_cons, List.mapM_append]
      simp only [bind_assoc, pure_bind]
      refine congrArg _ (funext fun line => ?_)
      by_cases hcuts : limits.cutsBelow v = true
      · have hnone : (Visit.preorder v.next).filter (tree.shows limits) = [] :=
          List.filter_eq_nil_iff.mpr fun w hw => by simp [not_shows_of_cutsBelow hcuts hw]
        rw [if_pos hcuts, hrest, hnone]
        simp
      · have hnext := ihNext (fun w hw => Visit.reaches_of_mem_next hv hw) fun w hw =>
          TreeLimits.admits_next hwithin (Bool.eq_false_iff.mpr hcuts) hw
        rw [if_neg hcuts, hnext]
        refine congrArg _ (funext fun below => ?_)
        rw [hrest]
        simp

/-- The text is made of the lines of the nodes within the limits, in preorder. -/
theorem text_eq (hshrinks : tree.root.Shrinks) (hdepth : ∀ depth ∈ limits.depth, 1 ≤ depth) :
    tree.text limits = ((tree.visits.filter (tree.shows limits)).mapM (tree.markedLine limits)).map joinLines := by
  have hreaches : ∀ v ∈ Visit.next ⟨[], tree.root⟩, v.path ≠ [] ∧ tree.root.Reaches v.path v.node :=
    fun v hv => Visit.reaches_of_mem_next (.here tree.root) hv
  have hadmits : ∀ v ∈ Visit.next ⟨[], tree.root⟩, limits.admits v.level = true := by
    intro v hv
    obtain ⟨child, -, rfl⟩ := Visit.mem_next.mp hv
    rw [TreeLimits.admits, Option.all_eq_true]
    exact fun depth h => decide_eq_true (hdepth depth h)
  have hstart : Pending.push 0 (CallNode.ranked tree.root.children) [] =
      (Visit.next ⟨[], tree.root⟩).map waiting ++ [] := by
    rw [Pending.push_eq, Visit.next, List.map_map]
    rfl
  rw [text, hstart, write_append hshrinks hreaches hadmits, visits]
  cases ((Visit.preorder (Visit.next ⟨[], tree.root⟩)).filter (tree.shows limits)).mapM (tree.markedLine limits) with
  | error e => rfl
  | ok written => simp [bind, Except.bind, write, Except.map]

/-- The percentages of the children of the root can be computed. -/
def Fits (tree : CallTree) : Prop :=
  tree.total ≤ 0 ∨ ∀ child ∈ tree.root.children, HasDatum child.total ∧ HasDatum tree.total

end CallTree

end StackQuery.Report
