import StackQuery.Proofs.Aggregation.Census
import StackQuery.Proofs.Counts.Same

/-!
# Counting in parts

Samples may be divided into parts that are counted on their own, and the counts merged two by two in any
grouping. Parts taken in the order of the stream give the counts of the whole stream, with every key in
its place; in any other order they give the same counts but for the order of the keys.
-/
namespace StackQuery

/-- A traversal of the same elements in another order gives the same results in another order. -/
theorem exists_mapM_of_perm {ε α β : Type} {f : α → Except ε β} {xs ys : List α} {zs : List β}
    (hperm : xs.Perm ys) (h : xs.mapM f = .ok zs) : ∃ ws, ys.mapM f = .ok ws ∧ ws.Perm zs := by
  obtain ⟨ws, hws, hzs⟩ := List.perm_comp_forall₂ hperm.symm (mapM_eq_ok_iff.mp h)
  exact ⟨ws, mapM_eq_ok_iff.mpr hws, hzs⟩

/-- A division of samples into parts, and the grouping in which the counts of the parts are merged. -/
inductive Division where
  | part (samples : List Sample)
  | join (left right : Division)

/-- The samples of the parts, in the order of the parts. -/
def Division.samples : Division → List Sample
  | .part samples => samples
  | .join left right => left.samples ++ right.samples

namespace Aggregator

/-- The merged counts of the parts; the first part that fails ends it. -/
def countDivided (a : Aggregator) : Division → Except SampleError Counts
  | .part samples => a.count samples
  | .join left right => do
    let c ← a.countDivided left
    let d ← a.countDivided right
    return c.merge d

variable (a : Aggregator)

/-- Parts in the order of the stream count as the stream does, in every grouping. -/
theorem countDivided_eq (division : Division) : a.countDivided division = a.count division.samples := by
  induction division with
  | part samples => rfl
  | join left right ihl ihr =>
    rw [countDivided, Division.samples, count_append, ihl, ihr]
    cases a.count left.samples with
    | error e => rfl
    | ok c => cases a.count right.samples <;> rfl

variable {a}

/-- Samples in another order have the same counts but for the order of the keys. -/
theorem exists_count_of_perm {samples others : List Sample} (hperm : others.Perm samples) {c : Counts}
    (h : a.count samples = .ok c) : ∃ d, a.count others = .ok d ∧ d.same c = true := by
  rw [count_eq] at h
  cases hxs : samples.mapM a.contributionOf with
  | error e =>
    rw [hxs] at h
    cases h
  | ok xs =>
    rw [hxs] at h
    cases h
    obtain ⟨ys, hys, hsame⟩ := exists_mapM_of_perm hperm.symm hxs
    refine ⟨Counts.zero.recordAll a.keepStacks ys, ?_, Counts.recordAll_perm_same a.keepStacks hsame⟩
    rw [count_eq, hys]
    rfl

variable (a)

/-- Contributions commute. With an accepted query, samples that can be renamed are counted; in another
order they have the same counts, and so they have in every division into parts, taken in any order and
merged in any grouping. Merging is associative and has the counts of no samples as its unit, with every key
in its place, and it is commutative but for the order of the keys. Parts in the order of the stream give
the counts of the stream themselves. -/
theorem contributions_commute {σ : Type} (compile : Query.Compiler σ) (store : σ) (query : String)
    (h : (Query.parseIn compile query store).1 = .ok a.pattern) (samples : List Sample) :
    ((∃ c, a.count samples = .ok c) ↔ ∀ s ∈ samples, ∃ frames, a.renamer.renameAll s = .ok frames) ∧
    (∀ c, a.count samples = .ok c →
      (∀ others : List Sample, others.Perm samples → ∃ d, a.count others = .ok d ∧ d.same c = true) ∧
      (∀ division : Division, division.samples.Perm samples →
        ∃ d, a.countDivided division = .ok d ∧ d.same c = true)) ∧
    (∀ division : Division, division.samples = samples → a.countDivided division = a.count samples) ∧
    (∀ c d e : Counts, (c.merge d).merge e = c.merge (d.merge e)) ∧
    (∀ c : Counts, Counts.zero.merge c = c ∧ c.merge .zero = c) ∧
    ∀ c d : Counts, (c.merge d).same (d.merge c) = true := by
  have hp := Query.grounded_of_parseIn h
  refine ⟨exists_count_iff hp, fun c hc => ⟨fun others hothers => exists_count_of_perm hothers hc, ?_⟩, ?_,
    Counts.merge_assoc, fun c => ⟨Counts.zero_merge c, Counts.merge_zero c⟩, Counts.merge_comm_same⟩
  · intro division hperm
    rw [countDivided_eq]
    exact exists_count_of_perm hperm hc
  · rintro division rfl
    exact a.countDivided_eq division

/-- Three samples, and the same samples in two parts of which the later one comes first. -/
theorem contributions_commute_swapped :
    let compile : String → Except Regex.CompileError (Frame → Bool) := fun text => .ok (· == text)
    let pattern : Query.Pattern := ⟨"\x7bb\x7d", .leaf "b" (· == "b")⟩
    let a : Aggregator := ⟨pattern, .identity, .matched, true, false⟩
    let samples := [["a", "b"], ["c"], ["b", "a"]]
    let division : Division := .join (.part [["b", "a"]]) (.join (.part [["a", "b"]]) (.part [["c"]]))
    Query.parseWith compile "\x7bb\x7d" = .ok pattern ∧ division.samples.Perm samples ∧
      ∃ c d, a.count samples = .ok c ∧ a.countDivided division = .ok d ∧ d.same c = true ∧
        c.functions.keys = ["a", "b"] ∧ d.functions.keys = ["b", "a"] := by
  intro compile pattern a samples division
  have hparse : Query.parseWith compile "\x7bb\x7d" = .ok pattern := by rfl
  have hperm : division.samples.Perm samples := by decide
  obtain ⟨hcounted, hsame, -⟩ := a.contributions_commute _ () _ hparse samples
  have hrenamed : ∀ s ∈ samples, ∃ frames, a.renamer.renameAll s = .ok frames := fun s _ =>
    ⟨s, Renamer.renameAll_of_no_rules rfl s⟩
  obtain ⟨c, hc⟩ := hcounted.mpr hrenamed
  obtain ⟨d, hd, hdc⟩ := (hsame c hc).2 division hperm
  refine ⟨hparse, hperm, c, d, hc, hd, hdc, ?_, ?_⟩
  · cases hc
    rfl
  · cases hd
    rfl

end Aggregator

end StackQuery
