import StackQuery.Proofs.Aggregation.Chunked

/-!
# Workers that finish in any order

A pool hands chunks to workers and merges what comes back. Workers finish whenever they like; the oldest
chunk in flight is waited for once the bound is reached or nothing more arrives. Whatever the order in
which they finish, a pool takes the steps of a run over chunks, it never gets stuck, and it ends after a
bounded number of steps with the outcome of counting the samples one after the other. There is a pool only within
the limits of the platform.
-/
namespace StackQuery

/-- A chunk that was handed to a worker. -/
structure Flight where
  chunk : List Sample
  finished : Bool

/-- The chunks that are to arrive, those in flight with the oldest first, and the counts merged so far. -/
structure Pool where
  arriving : List (List Sample)
  inFlight : List Flight
  counts : Counts

namespace Pool

/-- The pool before the first chunk is handed out. -/
def fresh (chunks : List (List Sample)) : Pool := ⟨chunks, [], .zero⟩

/-- The pool that a run starts with, if the platform has it. -/
def start (workers chunkSize : Nat) (samples : List Sample) : Except LimitError Pool := do
  checkPool workers
  let arriving ← chunks chunkSize samples
  return fresh arriving

/-- The oldest chunk in flight has to be merged next. -/
def Waits (bound : Nat) (p : Pool) : Prop := p.arriving = [] ∨ bound ≤ p.inFlight.length

/-- What may happen next. A worker that finishes has counted the chunk that it was given. -/
inductive Step (a : Aggregator) (bound : Nat) : Pool → Pool → Prop where
  | submit {chunk : List Sample} {arriving : List (List Sample)} {inFlight : List Flight}
      {counts : Counts} (below : inFlight.length < bound) :
      Step a bound ⟨chunk :: arriving, inFlight, counts⟩
        ⟨arriving, inFlight ++ [⟨chunk, false⟩], counts⟩
  | finish {chunk : List Sample} {arriving : List (List Sample)} {before after : List Flight}
      {counts : Counts} :
      Step a bound ⟨arriving, before ++ ⟨chunk, false⟩ :: after, counts⟩
        ⟨arriving, before ++ ⟨chunk, true⟩ :: after, counts⟩
  | merge {chunk : List Sample} {arriving : List (List Sample)} {others : List Flight}
      {counts part : Counts} (waits : Waits bound ⟨arriving, ⟨chunk, true⟩ :: others, counts⟩)
      (counted : a.count chunk = .ok part) :
      Step a bound ⟨arriving, ⟨chunk, true⟩ :: others, counts⟩ ⟨arriving, others, counts.merge part⟩

/-- How a pool ends: with its counts when everything was merged, or with the failure of the chunk that is
waited for. -/
inductive Ends (a : Aggregator) (bound : Nat) : Pool → Except SampleError Counts → Prop where
  | done {counts : Counts} : Ends a bound ⟨[], [], counts⟩ (.ok counts)
  | failed {chunk : List Sample} {arriving : List (List Sample)} {others : List Flight}
      {counts : Counts} {e : SampleError}
      (waits : Waits bound ⟨arriving, ⟨chunk, true⟩ :: others, counts⟩)
      (counted : a.count chunk = .error e) :
      Ends a bound ⟨arriving, ⟨chunk, true⟩ :: others, counts⟩ (.error e)

/-- A pool that is reached in a number of steps. -/
inductive Run (a : Aggregator) (bound : Nat) (first : Pool) : Nat → Pool → Prop where
  | refl : Run a bound first 0 first
  | step {n : Nat} {p q : Pool} (run : Run a bound first n p) (next : Step a bound p q) :
      Run a bound first (n + 1) q

/-- The steps over chunks that a pool still takes. -/
def upcoming (bound : Nat) (p : Pool) : List (ChunkStep (List Sample)) :=
  match decide (bound ≤ p.inFlight.length), p.inFlight.map (·.chunk) with
  | true, oldest :: others => .merge oldest :: remainingSteps bound others p.arriving
  | _, inFlight => remainingSteps bound inFlight p.arriving

variable {a : Aggregator} {bound : Nat}

theorem start_eq_ok_iff {workers chunkSize : Nat} {samples : List Sample} {p : Pool} :
    start workers chunkSize samples = .ok p ↔
      (workers ≤ maxPoolWorkers ∧ chunkSize ≤ maxChunkSize) ∧ p = fresh (pieces chunkSize samples) := by
  rw [start, chunks, checkPool, checkChunkSize, ← Nat.not_lt, ← Nat.not_lt, eq_comm (a := p)]
  split <;> split <;> simp_all [bind, Except.bind, Except.map, pure, Except.pure]

theorem upcoming_fresh (chunks : List (List Sample)) :
    (fresh chunks).upcoming bound = chunkSteps bound chunks := by
  rw [chunkSteps_eq, upcoming, fresh, List.map_nil]
  cases decide (bound ≤ ([] : List Flight).length) <;> rfl

theorem upcoming_of_lt {p : Pool} (h : p.inFlight.length < bound) :
    p.upcoming bound = remainingSteps bound (p.inFlight.map (·.chunk)) p.arriving := by
  have hb : decide (bound ≤ p.inFlight.length) = false := by
    rw [decide_eq_false_iff_not]
    omega
  simp only [upcoming, hb]

theorem upcoming_of_waits {arriving : List (List Sample)} {flight : Flight} {others : List Flight}
    {counts : Counts} (h : Waits bound ⟨arriving, flight :: others, counts⟩) :
    upcoming bound ⟨arriving, flight :: others, counts⟩ =
      .merge flight.chunk :: remainingSteps bound (others.map (·.chunk)) arriving := by
  by_cases hb : bound ≤ (flight :: others).length
  · simp only [upcoming, hb, decide_true, List.map_cons]
  · rcases h with h | h
    · dsimp only at h
      subst h
      simp only [upcoming, hb, decide_false, List.map_cons, remainingSteps_nil]
    · exact absurd h hb

theorem Step.inFlight_le {p q : Pool} (h : Step a bound p q) (hp : p.inFlight.length ≤ bound) :
    q.inFlight.length ≤ bound := by
  cases h with
  | submit below =>
    simp only [List.length_append, List.length_singleton] at below ⊢
    omega
  | finish => simpa using hp
  | merge waits counted =>
    simp only [List.length_cons] at hp
    exact Nat.le_of_succ_le hp

/-- A step of a pool does what the next step over chunks does, or changes nothing that such steps see. -/
theorem Step.runSteps_upcoming {p q : Pool} (h : Step a bound p q) (hp : p.inFlight.length ≤ bound) :
    a.runSteps (q.upcoming bound) q.counts = a.runSteps (p.upcoming bound) p.counts := by
  cases h with
  | @submit chunk arriving inFlight counts below =>
    rw [upcoming_of_lt (p := ⟨chunk :: arriving, inFlight, counts⟩) below]
    by_cases hfull : inFlight.length + 1 < bound
    · rw [remainingSteps_below bound (by simpa using hfull), Aggregator.runSteps,
        upcoming_of_lt (by simpa using hfull)]
      simp only [List.map_append, List.map_cons, List.map_nil]
    · obtain ⟨oldest, others, ho⟩ : ∃ oldest others, inFlight ++ [⟨chunk, false⟩] = oldest :: others :=
        List.exists_cons_of_ne_nil (by simp)
      have hmap : inFlight.map (·.chunk) ++ [chunk] = oldest.chunk :: others.map (·.chunk) := by
        simpa using congrArg (List.map (·.chunk)) ho
      have hlength : (oldest :: others).length = inFlight.length + 1 := by rw [← ho]; simp
      rw [remainingSteps_full bound (by rw [List.length_map]; omega) hmap, Aggregator.runSteps, ho,
        upcoming_of_waits (.inr (by dsimp only; omega))]
  | finish => simp only [upcoming, List.length_append, List.length_cons, List.map_append, List.map_cons]
  | @merge chunk arriving others counts part waits counted =>
    have hlt : others.length < bound := by
      simp only [List.length_cons] at hp
      omega
    rw [upcoming_of_waits waits, upcoming_of_lt (p := ⟨arriving, others, _⟩) hlt,
      Aggregator.runSteps, counted]

/-- A pool that ends gives the outcome of the steps that it still had to take. -/
theorem Ends.eq_runSteps {p : Pool} {outcome : Except SampleError Counts} (h : Ends a bound p outcome) :
    outcome = a.runSteps (p.upcoming bound) p.counts := by
  cases h with
  | done => cases bound <;> rfl
  | failed waits counted => rw [upcoming_of_waits waits, Aggregator.runSteps, counted]

/-- The number of steps that a pool can take at most: a chunk is handed out, finished and merged. -/
def work (p : Pool) : Nat :=
  3 * p.arriving.length + p.inFlight.length + p.inFlight.countP (!·.finished)

theorem Step.work_lt {p q : Pool} (h : Step a bound p q) : q.work < p.work := by
  cases h with
  | submit below =>
    simp only [work, List.length_cons, List.length_append, List.length_nil, List.countP_append,
      List.countP_cons, List.countP_nil, Bool.not_false, if_true]
    omega
  | finish =>
    simp only [work, List.length_append, List.length_cons, List.countP_append, List.countP_cons,
      Bool.not_false, Bool.not_true, Bool.false_eq_true, if_false, if_true]
    omega
  | merge waits counted =>
    simp only [work, List.length_cons, List.countP_cons, Bool.not_true, Bool.false_eq_true, if_false]
    omega

/-- A pool that did not end can take a step: no worker is waited for in vain. -/
theorem ends_or_step (hb : 0 < bound) (p : Pool) :
    (∃ outcome, p.Ends a bound outcome) ∨ ∃ q, Step a bound p q := by
  obtain ⟨arriving, inFlight, counts⟩ := p
  by_cases hw : Waits bound ⟨arriving, inFlight, counts⟩
  · cases inFlight with
    | nil =>
      have harriving : arriving = [] := by
        rcases hw with hw | hw
        · exact hw
        · simp only [List.length_nil] at hw
          omega
      subst harriving
      exact .inl ⟨_, .done⟩
    | cons oldest others =>
      obtain ⟨chunk, finished⟩ := oldest
      cases finished with
      | false => exact .inr ⟨_, @Step.finish a bound chunk arriving [] others counts⟩
      | true =>
        cases hc : a.count chunk with
        | error e => exact .inl ⟨_, .failed hw hc⟩
        | ok part => exact .inr ⟨_, .merge hw hc⟩
  · simp only [Waits, not_or, Nat.not_le] at hw
    obtain ⟨chunk, rest, rfl⟩ := List.exists_cons_of_ne_nil hw.1
    exact .inr ⟨_, .submit hw.2⟩

/-- What holds of every pool that is reached from chunks none of which was handed out. -/
theorem Run.spec {chunks : List (List Sample)} {n : Nat} {p : Pool}
    (h : Run a bound (fresh chunks) n p) :
    n + p.work ≤ 3 * chunks.length ∧ p.inFlight.length ≤ bound ∧
      a.runSteps (p.upcoming bound) p.counts = a.runSteps (chunkSteps bound chunks) .zero := by
  induction h with
  | refl => exact ⟨by simp [work, fresh], by simp [fresh], by rw [upcoming_fresh]; rfl⟩
  | step run next ih =>
    obtain ⟨hwork, hlength, hsteps⟩ := ih
    have hlt := next.work_lt
    exact ⟨by omega, next.inFlight_le hlength, (next.runSteps_upcoming hlength).trans hsteps⟩

end Pool

namespace Aggregator

theorem eq_count_of_ends (a : Aggregator) {bound size n : Nat} {samples : List Sample} {p : Pool}
    {outcome : Except SampleError Counts} (hrun : Pool.Run a bound (.fresh (pieces size samples)) n p)
    (hends : p.Ends a bound outcome) : outcome = a.count samples := by
  obtain ⟨-, -, hsteps⟩ := hrun.spec
  rw [hends.eq_runSteps, hsteps]
  exact a.runSteps_pieces bound size samples

/-- Counting with several workers, which finish in any order, has the outcome of counting the samples one
after the other: the same counts with all keys in the same order, or the failure of the first sample that
fails. That is so exactly for one worker, and where the platform has a pool of so many workers and chunks of
that size; otherwise nothing is counted. -/
theorem parallel_outcome_eq_serial (a : Aggregator) {workers chunkSize : Int} (hw : 1 ≤ workers)
    (hc : 1 ≤ chunkSize) (samples : List Sample) :
    (∃ mode, modeOf workers chunkSize = .ok mode ∧
      (a.countIn mode workers chunkSize samples = (a.count samples).mapError .sample ↔
        workers = 1 ∨ workers ≤ maxPoolWorkers ∧ chunkSize ≤ maxChunkSize) ∧
      ((∃ e, a.countIn mode workers chunkSize samples = .error (.limit e)) ↔
        ¬ (workers = 1 ∨ workers ≤ maxPoolWorkers ∧ chunkSize ≤ maxChunkSize))) ∧
    ((∃ first, Pool.start workers.toNat chunkSize.toNat samples = .ok first) ↔
      workers ≤ maxPoolWorkers ∧ chunkSize ≤ maxChunkSize) ∧
    (∀ first n pool, Pool.start workers.toNat chunkSize.toNat samples = .ok first →
      Pool.Run a (workers.toNat * chunksPerWorker) first n pool →
        n ≤ 3 * (pieces chunkSize.toNat samples).length ∧
        (∀ outcome, pool.Ends a (workers.toNat * chunksPerWorker) outcome → outcome = a.count samples) ∧
        ((∃ outcome, pool.Ends a (workers.toNat * chunksPerWorker) outcome) ∨
          ∃ next, Pool.Step a (workers.toNat * chunksPerWorker) pool next)) ∧
    ∀ e, a.count samples = .error e ↔
      ∃ before sample after, samples = before ++ sample :: after ∧
        (∀ s ∈ before, ∃ c, a.contributionOf s = .ok c) ∧ a.contributionOf sample = .error e := by
  have hb : 0 < workers.toNat * chunksPerWorker := by
    simp only [chunksPerWorker]
    omega
  refine ⟨?_, ?_, ?_, fun e => a.count_eq_error_iff⟩
  · have hwithin : WithinLimits (if workers = 1 then .serial else .parallel) workers chunkSize ↔
        workers = 1 ∨ workers ≤ maxPoolWorkers ∧ chunkSize ≤ maxChunkSize := by
      rw [WithinLimits]
      by_cases hone : workers = 1
      · simp [hone]
      · simp [hone]
    refine ⟨if workers = 1 then .serial else .parallel, ?_, ?_, ?_⟩
    · rw [modeOf, if_neg (by omega), if_neg (by omega)]
    · rw [countIn_eq_count_iff, hwithin]
    · rw [exists_countIn_limit_iff, hwithin]
  · simp only [Pool.start_eq_ok_iff, exists_and_left, exists_eq, and_true]
    omega
  · intro first n pool hstart hrun
    obtain ⟨-, rfl⟩ := Pool.start_eq_ok_iff.mp hstart
    have hwork := hrun.spec.1
    exact ⟨by omega, fun outcome => a.eq_count_of_ends hrun, Pool.ends_or_step hb pool⟩

/-- Two workers that count single samples, one of which is empty. -/
theorem parallel_outcome_two_workers :
    (1 : Int) ≤ 2 ∧ (1 : Int) ≤ 1 ∧
      (Aggregator.mk ⟨".", .any⟩ .identity .callers true true).countIn .parallel 2 1
          [["malloc", "main"], [], ["free", "main"]] =
        ((Aggregator.mk ⟨".", .any⟩ .identity .callers true true).count
          [["malloc", "main"], [], ["free", "main"]]).mapError .sample := by
  have hw : (1 : Int) ≤ 2 := by decide
  have hc : (1 : Int) ≤ 1 := by decide
  obtain ⟨⟨mode, hmode, hcount, -⟩, -⟩ := parallel_outcome_eq_serial
    (.mk ⟨".", .any⟩ .identity .callers true true) hw hc [["malloc", "main"], [], ["free", "main"]]
  have hparallel : modeOf 2 1 = .ok .parallel := rfl
  cases hparallel.symm.trans hmode
  exact ⟨hw, hc, hcount.mpr (.inr (by decide))⟩

/-- Chunks whose size takes more than 63 bits are not cut: two workers count nothing where one counts a sample. -/
theorem parallel_outcome_oversized_chunks :
    let a : Aggregator := ⟨⟨"\x7ba\x7d", .leaf "a" (· == "a")⟩, .identity, .all, false, false⟩
    modeOf 2 9223372036854775808 = .ok .parallel ∧
      a.countIn .parallel 2 9223372036854775808 [["a"]] = .error (.limit .chunkSize) ∧
      (∃ counts, a.count [["a"]] = .ok counts) ∧
      a.countIn .parallel 2 9223372036854775808 [["a"]] ≠ (a.count [["a"]]).mapError .sample := by
  intro a
  have hlimits : limits .parallel 2 9223372036854775808 = .error .chunkSize := by decide +kernel
  have hcut : a.countIn .parallel 2 9223372036854775808 [["a"]] = .error (.limit .chunkSize) := by
    rw [countIn_eq, hlimits]
    rfl
  obtain ⟨counts, hcount⟩ : ∃ counts, a.count [["a"]] = .ok counts := ⟨_, rfl⟩
  refine ⟨by decide, hcut, ⟨counts, hcount⟩, ?_⟩
  rw [hcut, hcount]
  simp [Except.mapError]

end Aggregator

end StackQuery
