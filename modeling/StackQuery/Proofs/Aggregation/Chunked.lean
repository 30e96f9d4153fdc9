import StackQuery.Aggregation.Parallel
import StackQuery.Proofs.Aggregation.Contribution

/-!
# Counting in chunks as counting

The steps of a run over chunks merge every chunk once, in the order in which the chunks arrive, whatever
the bound on the chunks in flight. Such a run therefore counts the samples as if they were not cut, unless the
platform has no such pool or no such chunks.
-/
namespace StackQuery

section
variable {α : Type} (bound : Nat)

/-- The chunks that steps merge, in order. -/
def mergedChunks : List (ChunkStep α) → List α
  | [] => []
  | .submit _ :: rest => mergedChunks rest
  | .merge chunk :: rest => chunk :: mergedChunks rest

/-- The steps that a run still takes: chunks are in flight, and chunks are to arrive. -/
def remainingSteps (inFlight arriving : List α) : List (ChunkStep α) :=
  (feedSteps bound inFlight arriving).1 ++ (feedSteps bound inFlight arriving).2.map .merge

theorem chunkSteps_eq (arriving : List α) : chunkSteps bound arriving = remainingSteps bound [] arriving :=
  rfl

theorem remainingSteps_nil (inFlight : List α) :
    remainingSteps bound inFlight [] = inFlight.map .merge := rfl

/-- A chunk that arrives below the bound is handed out, and nothing is merged. -/
theorem remainingSteps_below {inFlight : List α} {chunk : α} {rest : List α}
    (h : inFlight.length + 1 < bound) :
    remainingSteps bound inFlight (chunk :: rest) =
      .submit chunk :: remainingSteps bound (inFlight ++ [chunk]) rest := by
  have hb : decide (bound ≤ (inFlight ++ [chunk]).length) = false := by
    simp only [List.length_append, List.length_singleton, decide_eq_false_iff_not]
    omega
  simp only [remainingSteps, feedSteps, hb, List.cons_append]

/-- A chunk that reaches the bound is handed out, and the oldest one in flight is merged. -/
theorem remainingSteps_full {inFlight : List α} {chunk oldest : α} {others rest : List α}
    (h : bound ≤ inFlight.length + 1) (ho : inFlight ++ [chunk] = oldest :: others) :
    remainingSteps bound inFlight (chunk :: rest) =
      .submit chunk :: .merge oldest :: remainingSteps bound others rest := by
  have hb : decide (bound ≤ (inFlight ++ [chunk]).length) = true := by
    simp only [List.length_append, List.length_singleton, decide_eq_true_eq]
    omega
  rw [ho] at hb
  simp only [remainingSteps, feedSteps, ho, hb, List.cons_append]

theorem mergedChunks_map_merge (chunks : List α) : mergedChunks (chunks.map .merge) = chunks := by
  induction chunks with
  | nil => rfl
  | cons chunk rest ih => rw [List.map_cons, mergedChunks, ih]

theorem mergedChunks_remainingSteps (inFlight arriving : List α) :
    mergedChunks (remainingSteps bound inFlight arriving) = inFlight ++ arriving := by
  induction arriving generalizing inFlight with
  | nil => rw [remainingSteps_nil, mergedChunks_map_merge, List.append_nil]
  | cons chunk rest ih =>
    by_cases h : inFlight.length + 1 < bound
    · rw [remainingSteps_below bound h, mergedChunks, ih, List.append_assoc, List.singleton_append]
    · obtain ⟨oldest, others, ho⟩ : ∃ oldest others, inFlight ++ [chunk] = oldest :: others :=
        List.exists_cons_of_ne_nil (by simp)
      rw [remainingSteps_full bound (by omega) ho, mergedChunks, mergedChunks, ih]
      rw [← List.cons_append, ← ho, List.append_assoc, List.singleton_append]

end

namespace Aggregator

variable (a : Aggregator)

theorem runSteps_eq (steps : List (ChunkStep (List Sample))) (counts : Counts) :
    a.runSteps steps counts =
      ((mergedChunks steps).flatten.mapM a.contributionOf).map (counts.recordAll a.keepStacks) := by
  induction steps generalizing counts with
  | nil => rfl
  | cons step rest ih =>
    cases step with
    | submit chunk => exact ih counts
    | merge chunk =>
      rw [runSteps, count_eq, mergedChunks, List.flatten_cons, List.mapM_append]
      cases chunk.mapM a.contributionOf with
      | error e => rfl
      | ok xs =>
        change a.runSteps rest (counts.merge (Counts.zero.recordAll a.keepStacks xs)) = _
        rw [ih, ← Counts.recordAll_eq_merge]
        cases (mergedChunks rest).flatten.mapM a.contributionOf with
        | error e => rfl
        | ok ys => exact congrArg Except.ok (Counts.recordAll_append counts a.keepStacks xs ys).symm

/-- Steps over the pieces of samples count them, for every bound and every size. -/
theorem runSteps_pieces (bound size : Nat) (samples : List Sample) :
    a.runSteps (chunkSteps bound (pieces size samples)) .zero = a.count samples := by
  rw [runSteps_eq, chunkSteps_eq, mergedChunks_remainingSteps, List.nil_append, flatten_pieces, ← count_eq]

/-- Counting in either way is counting, where the platform has what the way asks for. -/
theorem countIn_eq (mode : Mode) (workers chunkSize : Int) (samples : List Sample) :
    a.countIn mode workers chunkSize samples =
      (limits mode workers chunkSize).mapError .limit >>= fun _ => (a.count samples).mapError .sample := by
  cases mode with
  | serial => rfl
  | parallel =>
    rw [countIn, countChunked, limits, chunks]
    cases checkPool workers.toNat with
    | error e => rfl
    | ok =>
      cases checkChunkSize chunkSize.toNat with
      | error e => rfl
      | ok => exact congrArg (Except.mapError CountError.sample) (a.runSteps_pieces _ _ samples)

/-- The platform bounds a run in chunks only. -/
def WithinLimits (mode : Mode) (workers chunkSize : Int) : Prop :=
  mode = .parallel → workers ≤ maxPoolWorkers ∧ chunkSize ≤ maxChunkSize

theorem limits_eq_ok_iff {mode : Mode} {workers chunkSize : Int} :
    limits mode workers chunkSize = .ok () ↔ WithinLimits mode workers chunkSize := by
  cases mode with
  | serial => exact ⟨nofun, fun _ => rfl⟩
  | parallel =>
    have hpool : maxPoolWorkers < workers.toNat ↔ ¬ workers ≤ maxPoolWorkers := by omega
    have hsize : maxChunkSize < chunkSize.toNat ↔ ¬ chunkSize ≤ maxChunkSize := by omega
    rw [limits, checkPool, checkChunkSize, WithinLimits]
    split <;> split <;> simp_all [bind, Except.bind]

theorem exists_countIn_limit_iff {mode : Mode} {workers chunkSize : Int} {samples : List Sample} :
    (∃ e, a.countIn mode workers chunkSize samples = .error (.limit e)) ↔ ¬ WithinLimits mode workers chunkSize := by
  rw [← limits_eq_ok_iff, countIn_eq]
  cases limits mode workers chunkSize with
  | ok =>
    refine ⟨?_, fun h => absurd rfl h⟩
    rintro ⟨e, h⟩
    obtain ⟨e', -, he⟩ := mapError_eq_error_iff.mp h
    cases he
  | error e => exact ⟨fun _ h => (by cases h), fun _ => ⟨e, rfl⟩⟩

/-- The outcome is that of counting exactly within the limits: beyond them nothing is counted. -/
theorem countIn_eq_count_iff {mode : Mode} {workers chunkSize : Int} {samples : List Sample} :
    a.countIn mode workers chunkSize samples = (a.count samples).mapError .sample ↔
      WithinLimits mode workers chunkSize := by
  rw [← limits_eq_ok_iff, countIn_eq]
  cases limits mode workers chunkSize with
  | ok => exact ⟨fun _ => rfl, fun _ => rfl⟩
  | error e =>
    refine ⟨fun h => ?_, fun h => by cases h⟩
    cases hcount : a.count samples <;> rw [hcount] at h <;> cases h

end Aggregator

end StackQuery
