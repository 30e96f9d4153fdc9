import StackQuery.Proofs.Report.Leaves
import StackQuery.Proofs.Report.PrefixTree

/-!
# Reports of one pass agree

A report reads the functions, the edges or the stacks of a pass. Where stacks are kept, the three are one
census, so no leaf of a flat profile and no node of a call tree shows more samples than its function has.
-/
namespace StackQuery.Report

/-- Functions and edges are counted once for each stored stack that holds them, so neither the rollup of rare
leaves nor the sharing of beginnings can show more samples than the counts of functions do. -/
theorem reports_agree {counts : Counts} (h : counts.Reached) :
    (∀ f, counts.functions.count f = counts.stacks.weight (f ∈ ·)) ∧
    (∀ f g, counts.edges.count (f, g) = counts.stacks.weight ([f, g] <:+: ·)) ∧
    (∀ cutoff view, flatten counts cutoff = .ok view →
      ∀ row ∈ view.rows, row.count ≤ counts.functions.count row.name) ∧
    ∀ inverted path node, path ≠ [] → (CallTree.build counts inverted).root.Reaches path node →
      node.total ≤ counts.functions.count node.name := by
  have hcoherent := h.coherent
  refine ⟨hcoherent.functions, hcoherent.edges, ?_, ?_⟩
  · intro cutoff view hview row hrow
    exact count_le_of_flatten hcoherent hview hrow
  · intro inverted path node hpath hreaches
    exact CallTree.total_le_of_reaches hcoherent hreaches hpath

/-- Two passes, merged, over a recursive sample, an empty one and one that ends in a rare function: the flat
profile credits the rare function to its caller, and the innermost call of the recursive one starts a branch
of the inverted tree. -/
theorem reports_agree_merged :
    let a : Aggregator := ⟨⟨".", .any⟩, .identity, .all, true, false⟩
    let first := (a.process ["f", "g", "f"] .empty (a.process [] .empty .zero).2.2).2.2
    let second := (a.process ["f", "h"] .empty (a.process ["f", "g", "f"] .empty .zero).2.2).2.2
    let counts := first.merge second
    counts.Reached ∧ counts.stacks.weight ("f" ∈ ·) = 3 ∧ counts.functions.count "f" = 3 ∧
      (∃ view, flatten counts (.int 30) = .ok view ∧
        view.rows.map (fun row => (row.name, row.count)) = [("f", 3)] ∧
        ∀ row ∈ view.rows, row.count ≤ counts.functions.count row.name) ∧
      ∃ node, (CallTree.build counts true).root.Reaches ["f", "g", "f"] node ∧ node.total = 2 ∧
        node.total ≤ counts.functions.count node.name := by
  intro a first second counts
  have hfirst : first.Reached := .process a rfl _ _ (.process a rfl _ _ .zero)
  have hsecond : second.Reached := .process a rfl _ _ (.process a rfl _ _ .zero)
  have hreached : counts.Reached := .merge hfirst hsecond
  obtain ⟨hfunctions, -, hleaves, htree⟩ := reports_agree hreached
  have hweight : counts.stacks.weight ("f" ∈ ·) = 3 := by decide +kernel
  have hrows : (flatten counts (.int 30)).toOption.map (fun view =>
      view.rows.map fun row => (row.name, row.count)) = some [("f", 3)] := by decide +kernel
  have hnode : ((CallTree.build counts true).root.at? ["f", "g", "f"]).map CallNode.total = some 2 := by
    decide +kernel
  obtain ⟨node, hat, htotal⟩ := Option.map_eq_some_iff.mp hnode
  have hreaches := CallNode.reaches_of_at? hat
  refine ⟨hreached, hweight, (hfunctions "f").trans hweight, ?_, node, hreaches, htotal, ?_⟩
  · cases hview : flatten counts (.int 30) with
    | error e =>
      rw [hview] at hrows
      cases hrows
    | ok view =>
      rw [hview] at hrows
      exact ⟨view, rfl, Option.some.inj hrows, hleaves _ view hview⟩
  · exact htree true _ node (List.cons_ne_nil _ _) hreaches

end StackQuery.Report
