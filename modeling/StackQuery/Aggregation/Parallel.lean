import StackQuery.Aggregation.Basic

/-!
# Counting in chunks

The stream is cut into chunks that workers count on their own. The number of chunks in flight is bounded:
when a chunk is handed out and the bound is reached, the oldest result is merged first. Results are
merged in the order of the stream. The platform bounds the number of workers and the size of chunks;
beyond that a run breaks off before its first sample.
-/
namespace StackQuery

inductive LimitError where
  | workers
  | chunkSize
  deriving DecidableEq, Repr

def LimitError.message : LimitError → String
  | .workers => "Python int too large to convert to C int"
  | .chunkSize =>
    "Stop argument for islice() must be None or an integer: 0 <= x <= sys.maxsize."

/-- The greatest number of workers in a pool: their calls, and one call more, are counted in 31 bits. -/
def maxPoolWorkers : Nat := 2147483646

def maxChunkSize : Nat := 9223372036854775807

def checkPool (workers : Nat) : Except LimitError Unit :=
  if maxPoolWorkers < workers then .error .workers else .ok ()

def checkChunkSize (size : Nat) : Except LimitError Unit :=
  if maxChunkSize < size then .error .chunkSize else .ok ()

/-- The list cut into pieces of a positive size, the last one possibly shorter. -/
def pieces {α : Type} (size : Nat) : List α → List (List α)
  | [] => []
  | x :: xs => (x :: xs.take (size - 1)) :: pieces size (xs.drop (size - 1))
  termination_by xs => xs.length
  decreasing_by
    simp only [List.length_drop, List.length_cons]
    omega

def chunks {α : Type} (size : Nat) (xs : List α) : Except LimitError (List (List α)) :=
  (checkChunkSize size).map fun _ => pieces size xs

/-- A step of a run over chunks. -/
inductive ChunkStep (α : Type) where
  | submit (chunk : α)
  | merge (chunk : α)
  deriving DecidableEq, Repr

/-- The steps while chunks arrive, and the chunks that are still in flight after the last one. -/
def feedSteps {α : Type} (bound : Nat) : (inFlight arriving : List α) → List (ChunkStep α) × List α
  | inFlight, [] => ([], inFlight)
  | inFlight, chunk :: rest =>
    let inFlight := inFlight ++ [chunk]
    match decide (bound ≤ inFlight.length), inFlight with
    | true, oldest :: others =>
      let (steps, left) := feedSteps bound others rest
      (.submit chunk :: .merge oldest :: steps, left)
    | _, inFlight =>
      let (steps, left) := feedSteps bound inFlight rest
      (.submit chunk :: steps, left)

def chunkSteps {α : Type} (bound : Nat) (arriving : List α) : List (ChunkStep α) :=
  let (steps, left) := feedSteps bound [] arriving
  steps ++ left.map .merge

def chunksPerWorker : Nat := 2

/-- Why a run in chunks is refused. -/
inductive ChunkingError where
  | workers (given : Int)
  | chunkSize (given : Int)
  deriving DecidableEq, Repr

def ChunkingError.message : ChunkingError → String
  | .workers given => "workers must be positive, got " ++ toString given
  | .chunkSize given => "chunk_size must be positive, got " ++ toString given

inductive CountError where
  | sample (error : SampleError)
  | limit (error : LimitError)
  deriving DecidableEq, Repr

namespace Aggregator

/-- The counts after steps of a run over chunks; the first merged chunk that failed ends it. -/
def runSteps (a : Aggregator) : List (ChunkStep (List Sample)) → Counts → Except SampleError Counts
  | [], counts => .ok counts
  | .submit _ :: rest, counts => a.runSteps rest counts
  | .merge chunk :: rest, counts =>
    match a.count chunk with
    | .ok part => a.runSteps rest (counts.merge part)
    | .error e => .error e

/-- The counts of samples that several workers count. The pool comes first, then the first chunk. -/
def countChunked (a : Aggregator) (workers chunkSize : Nat) (samples : List Sample) :
    Except CountError Counts := do
  (checkPool workers).mapError .limit
  let arriving ← (chunks chunkSize samples).mapError .limit
  (a.runSteps (chunkSteps (workers * chunksPerWorker) arriving) .zero).mapError .sample

inductive Mode where
  | serial
  | parallel
  deriving DecidableEq, Repr

def Mode.text : Mode → String
  | .serial => "serial"
  | .parallel => "parallel"

def modeOf (workers chunkSize : Int) : Except ChunkingError Mode :=
  if workers < 1 then .error (.workers workers)
  else if chunkSize < 1 then .error (.chunkSize chunkSize)
  else .ok (if workers = 1 then .serial else .parallel)

def limits (mode : Mode) (workers chunkSize : Int) : Except LimitError Unit :=
  match mode with
  | .serial => .ok ()
  | .parallel => checkPool workers.toNat >>= fun _ => checkChunkSize chunkSize.toNat

def countIn (a : Aggregator) (mode : Mode) (workers chunkSize : Int) (samples : List Sample) :
    Except CountError Counts :=
  match mode with
  | .serial => (a.count samples).mapError .sample
  | .parallel => a.countChunked workers.toNat chunkSize.toNat samples

theorem flatten_pieces {α : Type} (size : Nat) (xs : List α) : (pieces size xs).flatten = xs := by
  fun_induction pieces size xs with
  | case1 => rfl
  | case2 x xs ih => simp [ih]

end Aggregator

end StackQuery
