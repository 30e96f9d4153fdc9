import Mathlib.Tactic.MkIffOfInductiveProp
import StackQuery.Proofs.Report.Selection
import StackQuery.Proofs.Settings.Range
import StackQuery.Run.Execution

/-!
# Options in range

The check of the options of a run passes exactly if they are in range. What is checked once more later on, by the
reports and by a pass in chunks, then passes too: a report fails for the size of a number only.
-/
namespace StackQuery.Run

@[mk_iff]
structure Options.InRange (o : Options) : Prop where
  threshold : 1 ≤ o.threshold
  workers : 1 ≤ o.workers
  maxDepth : ∀ depth ∈ o.maxDepth, 1 ≤ depth
  minPercent : Report.isPercentage (.float o.minPercent) = true
  frequency : ∀ hertz ∈ o.frequency, (Number.float hertz).le (.int 0) = false

/-- A test that refuses what it finds is passed if it finds nothing; then the rest is up. -/
theorem refuse_eq_ok_iff {ε α β : Type} {c : Prop} [Decidable c] {e : ε} {k : α → Except ε β} {rest : Except ε β}
    {v : β} : (if c then (throw e : Except ε α) >>= k else rest) = .ok v ↔ ¬c ∧ rest = .ok v := by
  split
  · next hc => exact ⟨nofun, fun h => absurd hc h.1⟩
  · next hc => exact ⟨fun h => ⟨hc, h⟩, And.right⟩

theorem refuse_last_eq_ok_iff {ε : Type} {c : Prop} [Decidable c] {e : ε} :
    (if c then (throw e : Except ε Unit) else pure ()) = .ok () ↔ ¬c := by
  split
  · next hc => exact ⟨nofun, fun h => absurd hc h⟩
  · next hc => exact ⟨fun _ => hc, fun _ => rfl⟩

theorem Options.check_eq_ok_iff {o : Options} : o.check = .ok () ↔ o.InRange := by
  have hdone : (pure () : Except OptionError Unit) = .ok () := rfl
  rw [inRange_iff, check]
  cases o.maxDepth <;> cases o.frequency
  all_goals
    dsimp only
    simp only [refuse_eq_ok_iff, refuse_last_eq_ok_iff]
    simp [hdone]

/-- A pass is carried out as its own check of workers and chunks has it. -/
theorem Options.InRange.modeOf_eq {o : Options} (h : o.InRange) (hchunkSize : 1 ≤ o.chunkSize) :
    Aggregator.modeOf o.workers o.chunkSize = .ok o.mode := by
  have hworkers := h.workers
  rw [Aggregator.modeOf, if_neg (by omega), if_neg (by omega), Options.mode]
  by_cases hone : o.workers = 1
  · rw [if_pos hone, if_neg (by omega)]
  · rw [if_neg hone, if_pos (by omega)]

theorem Built.ofCounts_eq_error {p : Plan} (hp : p.options.InRange) {counts : Counts} {e : Report.BuildError}
    (h : Built.ofCounts p counts = .error e) : e = .arithmetic .tooLarge := by
  unfold Built.ofCounts at h
  split at h
  · cases h
  · exact Report.build_eq_error hp.threshold (map_eq_error_iff.mp h)
  · exact Report.build_eq_error hp.threshold (map_eq_error_iff.mp h)
  · cases h
  · exact Report.flatten_eq_error hp.minPercent (map_eq_error_iff.mp h)

end StackQuery.Run
