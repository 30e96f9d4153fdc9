import StackQuery.Aggregation.Parallel
import StackQuery.Profile.Reader

/-!
# Passes over a profile

A pass counts the samples of a profile while it is read, and reports the places that the reader skips. A
pass in chunks reads up to the last sample of a chunk before the chunk is handed out; what follows the
last sample of all is read before the chunks still in flight are merged. Nothing is read or reported
after a sample that fails, nor where the workers or the chunks are beyond the platform.
-/
namespace StackQuery

open Profile (Item)

inductive Progress where
  /-- The number of a line where the reader began to skip. -/
  | skipped (line : Nat)
  | merged (part : Counts)

/-- Items cut after every `size`-th sample, and the items after the last sample. The current batch is
kept in reverse, with the number of samples in it. -/
def batchesFrom (size : Nat) : (batch : List Item) → (filled : Nat) → List Item →
    List (List Item) × List Item
  | batch, 0, [] => ([], batch.reverse)
  | batch, _, [] => ([batch.reverse], [])
  | batch, filled, .skipped line :: rest => batchesFrom size (.skipped line :: batch) filled rest
  | batch, filled, .sample frames :: rest =>
    if size ≤ filled + 1 then
      let (others, left) := batchesFrom size [] 0 rest
      ((.sample frames :: batch).reverse :: others, left)
    else batchesFrom size (.sample frames :: batch) (filled + 1) rest

/-- Items cut after every `size`-th sample, if chunks may have that size, and the items after the last sample. -/
def batches (size : Nat) (items : List Item) : Except LimitError (List (List Item) × List Item) :=
  (checkChunkSize size).map fun _ => batchesFrom size [] 0 items

/-- A step of a pass in chunks. -/
inductive PassStep where
  | read (items : List Item)
  | merge (batch : List Item)
  deriving DecidableEq, Repr

def PassStep.ofChunkStep : ChunkStep (List Item) → PassStep
  | .submit batch => .read batch
  | .merge batch => .merge batch

def passSteps (workers size : Nat) (items : List Item) : Except LimitError (List PassStep) := do
  checkPool workers
  let (full, trailing) ← batches size items
  let (steps, left) := feedSteps (workers * chunksPerWorker) [] full
  return steps.map .ofChunkStep ++ .read trailing :: left.map .merge

namespace Aggregator

/-- A pass in one go: what it reports, and its counts. -/
def passFrom (a : Aggregator) : List Item → Renamer.Memo → Counts →
    List Progress × Except SampleError Counts
  | [], _, counts => ([], .ok counts)
  | .skipped line :: rest, memo, counts =>
    let (reports, result) := a.passFrom rest memo counts
    (.skipped line :: reports, result)
  | .sample frames :: rest, memo, counts =>
    match a.process frames memo counts with
    | (.ok _, memo, counts) => a.passFrom rest memo counts
    | (.error e, _, _) => ([], .error e)

/-- A pass in chunks: what it reports, and its counts. -/
def passThrough (a : Aggregator) : List PassStep → Counts → List Progress × Except SampleError Counts
  | [], counts => ([], .ok counts)
  | .read items :: rest, counts =>
    let (reports, result) := a.passThrough rest counts
    ((Profile.skippedLines items).map .skipped ++ reports, result)
  | .merge batch :: rest, counts =>
    match a.count (Profile.samples batch) with
    | .ok part =>
      let (reports, result) := a.passThrough rest (counts.merge part)
      (.merged part :: reports, result)
    | .error e => ([], .error e)

/-- A pass over a profile: what it reports, and its counts. -/
def pass (a : Aggregator) (mode : Mode) (workers chunkSize : Int) (items : List Item) :
    List Progress × Except CountError Counts :=
  match mode with
  | .serial =>
    let (reports, result) := a.passFrom items .empty .zero
    (reports, result.mapError .sample)
  | .parallel =>
    match passSteps workers.toNat chunkSize.toNat items with
    | .error e => ([], .error (.limit e))
    | .ok steps =>
      let (reports, result) := a.passThrough steps .zero
      (reports, result.mapError .sample)

theorem passFrom_snd (a : Aggregator) (items : List Item) (memo : Renamer.Memo) (counts : Counts) :
    (a.passFrom items memo counts).2 = a.countFrom (Profile.samples items) memo counts := by
  induction items generalizing memo counts with
  | nil => rfl
  | cons item rest ih =>
    cases item with
    | skipped line => exact ih memo counts
    | sample frames =>
      change (match a.process frames memo counts with
        | (.ok _, memo, counts) => a.passFrom rest memo counts
        | (.error e, _, _) => ([], .error e)).2 = a.countFrom (frames :: Profile.samples rest) memo counts
      rw [countFrom]
      cases a.process frames memo counts with
      | mk result after =>
        cases result with
        | ok r => exact ih after.1 after.2
        | error e => rfl

end Aggregator

end StackQuery
