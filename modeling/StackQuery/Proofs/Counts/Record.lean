import StackQuery.Proofs.Counts.Each
import StackQuery.Proofs.Counts.Merge
import Mathlib.Data.List.Infix

/-!
# What recording contributions counts

A contribution counts each function and each edge of its slice once, whether or not the slice is empty.
Over many contributions the count of a function or an edge is the number of slices that hold it.
-/
namespace StackQuery.Counts

theorem mem_pairs_iff {frames : List Frame} {caller callee : Frame} :
    (caller, callee) ∈ pairs frames ↔ [caller, callee] <:+: frames := by
  induction frames with
  | nil => simp [pairs]
  | cons frame rest ih =>
    rw [List.infix_cons_iff, ← ih]
    cases rest with
    | nil => simp [pairs]
    | cons next rest => simp [pairs, List.cons_prefix_cons]

theorem mem_of_mem_pairs {frames : List Frame} {caller callee : Frame} (h : (caller, callee) ∈ pairs frames) :
    caller ∈ frames ∧ callee ∈ frames :=
  ⟨(List.of_mem_zip h).1, List.mem_of_mem_tail (List.of_mem_zip h).2⟩

theorem record_eq (counts : Counts) (keepStacks : Bool) (x : Contribution) :
    counts.record keepStacks x =
      { total := counts.total + 1
        matched := counts.matched + if x.result.matched then 1 else 0
        functions := addEach counts.functions (x.fed.getD []).eraseDups
        edges := addEach counts.edges (pairs (x.fed.getD [])).eraseDups
        «stacks» := addEach counts.stacks (if keepStacks then x.fed.toList else []) } := by
  have hmatched : (if x.result.matched then counts.matched + 1 else counts.matched) =
      counts.matched + if x.result.matched then 1 else 0 := by split <;> simp
  rw [record, hmatched]
  cases x.fed with
  | none => cases keepStacks <;> rfl
  | some fed => cases fed <;> cases keepStacks <;> rfl

theorem recordAll_eq (counts : Counts) (keepStacks : Bool) (xs : List Contribution) :
    counts.recordAll keepStacks xs =
      { total := counts.total + xs.length
        matched := counts.matched + xs.countP (·.result.matched)
        functions := addEach counts.functions ((xs.filterMap (·.fed)).flatMap (·.eraseDups))
        edges := addEach counts.edges ((xs.filterMap (·.fed)).flatMap fun slice => (pairs slice).eraseDups)
        «stacks» := addEach counts.stacks (if keepStacks then xs.filterMap (·.fed) else []) } := by
  induction xs generalizing counts with
  | nil => cases keepStacks <;> simp [recordAll, addEach]
  | cons x rest ih =>
    rw [recordAll_cons, ih, record_eq]
    have htotal : counts.total + 1 + (rest.length : Int) = counts.total + ((x :: rest).length : Int) := by
      simp only [List.length_cons]
      omega
    have hmatched : counts.matched + (if x.result.matched then 1 else 0) +
        (rest.countP (·.result.matched) : Int) = counts.matched + ((x :: rest).countP (·.result.matched) : Int) := by
      rw [List.countP_cons]
      push_cast
      split <;> omega
    rw [htotal, hmatched, ← addEach_append, ← addEach_append, ← addEach_append]
    cases hfed : x.fed with
    | none => cases keepStacks <;> simp [hfed, pairs]
    | some fed => cases keepStacks <;> simp [hfed]

end StackQuery.Counts
