import StackQuery.Aggregation.Pass
import StackQuery.Proofs.Aggregation.Chunked

/-!
# Passes as counting

A pass reports what it skips, reads ahead and merges in chunks; its counts are those of the samples of the
profile, whichever way it is carried out.
-/
namespace StackQuery

open Profile (Item)

theorem mergedChunks_append {α : Type} (xs ys : List (ChunkStep α)) :
    mergedChunks (xs ++ ys) = mergedChunks xs ++ mergedChunks ys := by
  induction xs with
  | nil => rfl
  | cons step xs ih =>
    cases step with
    | submit chunk => exact ih
    | merge chunk => exact congrArg (chunk :: ·) ih

/-- What a step of a pass does to the counts, as a step over chunks of samples. -/
def PassStep.chunkStep? : PassStep → Option (ChunkStep (List Sample))
  | .read _ => none
  | .merge batch => some (.merge (Profile.samples batch))

theorem mergedChunks_ofChunkStep (steps : List (ChunkStep (List Item))) :
    mergedChunks ((steps.map PassStep.ofChunkStep).filterMap PassStep.chunkStep?) =
      (mergedChunks steps).map Profile.samples := by
  induction steps with
  | nil => rfl
  | cons step rest ih =>
    cases step with
    | submit batch => exact ih
    | merge batch => exact congrArg (Profile.samples batch :: ·) ih

theorem samples_batchesFrom (size : Nat) (items : List Item) {batch : List Item} {filled : Nat}
    (h : (Profile.samples batch).length = filled) :
    ((batchesFrom size batch filled items).1.map Profile.samples).flatten =
      Profile.samples (batch.reverse ++ items) := by
  induction items generalizing batch filled with
  | nil =>
    cases filled with
    | zero =>
      have hnone : Profile.samples batch.reverse = [] := by
        rw [Profile.samples, List.filterMap_reverse, List.reverse_eq_nil_iff]
        exact List.eq_nil_of_length_eq_zero h
      rw [batchesFrom, List.append_nil, hnone]
      rfl
    | succ n => simp [batchesFrom]
  | cons item rest ih =>
    have hmove : batch.reverse ++ item :: rest = (item :: batch).reverse ++ rest := by simp
    rw [hmove]
    cases item with
    | skipped line =>
      rw [batchesFrom]
      exact ih h
    | sample frames =>
      have hnext : (Profile.samples (.sample frames :: batch)).length = filled + 1 := congrArg (· + 1) h
      rw [batchesFrom]
      split
      · have hrest := @ih [] 0 rfl
        simp only [List.map_cons, List.flatten_cons, hrest, Profile.samples, List.filterMap_append]
        rfl
      · exact ih hnext

theorem mergedChunks_passSteps {workers size : Nat} {items : List Item} {steps : List PassStep}
    (h : passSteps workers size items = .ok steps) :
    (mergedChunks (steps.filterMap PassStep.chunkStep?)).flatten = Profile.samples items := by
  obtain ⟨_, -, h⟩ := bind_eq_ok_iff.mp h
  obtain ⟨batched, hbatched, h⟩ := bind_eq_ok_iff.mp h
  obtain ⟨_, -, rfl⟩ := map_eq_ok_iff.mp hbatched
  cases h
  have hleft (left : List (List Item)) :
      left.map PassStep.merge = (left.map ChunkStep.merge).map PassStep.ofChunkStep := by
    rw [List.map_map]
    rfl
  rw [List.filterMap_append, mergedChunks_append, List.filterMap_cons_none rfl, hleft, mergedChunks_ofChunkStep,
    mergedChunks_ofChunkStep, ← List.map_append, ← mergedChunks_append]
  have hmerged := mergedChunks_remainingSteps (workers * chunksPerWorker) [] (batchesFrom size [] 0 items).1
  exact (congrArg (fun batches => (batches.map Profile.samples).flatten) hmerged).trans
    (samples_batchesFrom size items rfl)

namespace Aggregator

variable (a : Aggregator)

theorem passThrough_snd (steps : List PassStep) (counts : Counts) :
    (a.passThrough steps counts).2 = a.runSteps (steps.filterMap PassStep.chunkStep?) counts := by
  induction steps generalizing counts with
  | nil => rfl
  | cons step rest ih =>
    cases step with
    | read items => exact ih counts
    | merge batch =>
      change _ = a.runSteps (.merge (Profile.samples batch) :: rest.filterMap PassStep.chunkStep?) counts
      rw [passThrough, runSteps]
      cases a.count (Profile.samples batch) with
      | ok part => exact ih (counts.merge part)
      | error e => rfl

theorem passSteps_eq_error_iff {workers size : Nat} {items : List Item} {e : LimitError} :
    passSteps workers size items = .error e ↔ (checkPool workers >>= fun _ => checkChunkSize size) = .error e := by
  rw [passSteps, batches]
  cases checkPool workers with
  | error e' => simp [bind, Except.bind]
  | ok => cases checkChunkSize size <;> simp [bind, Except.bind, Except.map, pure, Except.pure]

theorem pass_snd (mode : Mode) (workers chunkSize : Int) (items : List Item) :
    (a.pass mode workers chunkSize items).2 = a.countIn mode workers chunkSize (Profile.samples items) := by
  cases mode with
  | serial => exact congrArg (Except.mapError CountError.sample) (a.passFrom_snd items .empty .zero)
  | parallel =>
    rw [pass, countIn_eq, limits]
    cases hsteps : passSteps workers.toNat chunkSize.toNat items with
    | error e =>
      rw [passSteps_eq_error_iff.mp hsteps]
      rfl
    | ok steps =>
      have hlimits : (checkPool workers.toNat >>= fun _ => checkChunkSize chunkSize.toNat) = .ok () := by
        cases h : checkPool workers.toNat >>= fun _ => checkChunkSize chunkSize.toNat with
        | ok => rfl
        | error e => cases hsteps.symm.trans (passSteps_eq_error_iff.mpr h)
      rw [hlimits]
      refine congrArg (Except.mapError CountError.sample) ?_
      rw [passThrough_snd, runSteps_eq, mergedChunks_passSteps hsteps, ← count_eq]

end Aggregator

end StackQuery
