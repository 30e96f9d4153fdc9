import StackQuery.Proofs.Counts.Record
import StackQuery.Proofs.Counts.Weight

/-!
# Counts that agree with their stacks

Where whole stacks are kept, the counts of functions and edges are sums over the stacks. Processing a sample
keeps it so, whether the sample feeds frames, no frames or nothing, and so does merging.
-/
namespace StackQuery.Counts

/-- A function is counted as often as the stacks that contain it, and an edge as often as the stacks in
which it occurs. -/
structure Coherent (c : Counts) : Prop where
  functions (f : Frame) : c.functions.count f = c.stacks.weight (f ∈ ·)
  edges (f g : Frame) : c.edges.count (f, g) = c.stacks.weight ([f, g] <:+: ·)
  nonneg : c.stacks.Nonneg

theorem coherent_zero : zero.Coherent := ⟨fun _ => rfl, fun _ _ => rfl, fun _ => Int.le_refl 0⟩

theorem Coherent.record {c : Counts} (h : c.Coherent) (x : Contribution) : (c.record true x).Coherent := by
  rw [record_eq]
  constructor
  · intro f
    rw [count_addEach, count_eraseDups, Tally.weight_addEach, h.functions]
    cases x.fed <;> simp [List.countP_singleton]
  · intro f g
    rw [count_addEach, count_eraseDups, Tally.weight_addEach, h.edges]
    cases x.fed <;> simp [pairs_nil, mem_pairs_iff, List.countP_singleton]
  · intro stack
    have hstack := h.nonneg stack
    rw [count_addEach]
    omega

theorem Coherent.merge {c d : Counts} (hc : c.Coherent) (hd : d.Coherent) : (c.merge d).Coherent := by
  constructor
  · intro f
    rw [Counts.merge, Tally.count_addAll, Tally.weight_addAll, hc.functions, hd.functions]
  · intro f g
    rw [Counts.merge, Tally.count_addAll, Tally.weight_addAll, hc.edges, hd.edges]
  · intro stack
    have hcStack := hc.nonneg stack
    have hdStack := hd.nonneg stack
    rw [Counts.merge, Tally.count_addAll]
    omega

/-- Counts that come of processing samples one after the other, with stacks kept, and of merging. -/
inductive Reached : Counts → Prop where
  | zero : Reached .zero
  | process (a : Aggregator) (keeps : a.keepStacks = true) (sample : Sample) (memo : Renamer.Memo)
      {c : Counts} (reached : Reached c) : Reached (a.process sample memo c).2.2
  | merge {c d : Counts} (left : Reached c) (right : Reached d) : Reached (c.merge d)

theorem process_counts (a : Aggregator) (sample : Sample) (memo : Renamer.Memo) (c : Counts) :
    (a.process sample memo c).2.2 = c ∨ ∃ x, (a.process sample memo c).2.2 = c.record a.keepStacks x := by
  rw [Aggregator.process]
  cases a.renamer.renameAllIn sample memo with
  | mk result memo' =>
    cases result with
    | error e => exact .inl rfl
    | ok frames =>
      dsimp only
      cases a.contribution frames with
      | error e => exact .inl rfl
      | ok x => exact .inr ⟨x, rfl⟩

theorem Reached.coherent {c : Counts} (h : c.Reached) : c.Coherent := by
  induction h with
  | zero => exact coherent_zero
  | process a keeps sample memo _ ih =>
    obtain hsame | ⟨x, hrecord⟩ := process_counts a sample memo _
    · rwa [hsame]
    · rw [hrecord, keeps]
      exact ih.record x
  | merge _ _ ihc ihd => exact ihc.merge ihd

theorem Reached.stacks_pos {c : Counts} (h : c.Reached) :
    ∀ stack ∈ c.stacks.keys, 0 < c.stacks.count stack := by
  induction h with
  | zero => exact nofun
  | @process a keeps sample memo c hc ih =>
    obtain hsame | ⟨x, hrecord⟩ := process_counts a sample memo c
    · rwa [hsame]
    · rw [hrecord, keeps, record_eq]
      intro stack hstack
      rw [keys_addEach, List.mem_eraseDups, List.mem_append] at hstack
      rw [count_addEach]
      rcases hstack with hold | hnew
      · have hpos := ih stack hold
        omega
      · have hnonneg := hc.coherent.nonneg stack
        have hpos := List.count_pos_iff.mpr hnew
        omega
  | @merge c d hc hd ihc ihd =>
    intro stack hstack
    rw [Counts.merge, Tally.keys_addAll, List.mem_append] at hstack
    rw [Counts.merge, Tally.count_addAll]
    have hcStack := hc.coherent.nonneg stack
    have hdStack := hd.coherent.nonneg stack
    rcases hstack with hstack | hstack
    · have hpos := ihc stack hstack
      omega
    · have hpos := ihd stack (List.mem_of_mem_filter hstack)
      omega

end StackQuery.Counts
