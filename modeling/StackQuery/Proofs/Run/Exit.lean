import StackQuery.CommandLine.Reader
import StackQuery.Proofs.Aggregation.Contribution
import StackQuery.Proofs.Query.Span
import StackQuery.Proofs.Run.Outcome
import StackQuery.Proofs.Traversal

/-!
# The exit code of a contradiction

The exit code that tells that the program contradicted itself is reserved for a match whose span is no
range of frames. The pattern of a plan comes from a query that was accepted, so there is no such match.
-/
namespace StackQuery

namespace Aggregator

variable {a : Aggregator}

theorem contributionOf_ne_violation (h : a.pattern.Grounded) (sample : Sample) (e : Query.InvalidSpan) :
    a.contributionOf sample ≠ .error (.span e) := by
  rw [contributionOf]
  cases a.renamer.renameAll sample with
  | error e' => simp
  | ok frames =>
    obtain hr | ⟨start, stop, hr, -⟩ := Query.evaluate_of_grounded h frames
    all_goals simp [contribution, hr, Except.map]

theorem count_ne_violation (h : a.pattern.Grounded) (samples : List Sample) (e : Query.InvalidSpan) :
    a.count samples ≠ .error (.span e) := by
  intro hcount
  obtain ⟨-, sample, -, -, -, hsample⟩ := a.count_eq_error_iff.mp hcount
  exact contributionOf_ne_violation h sample e hsample

end Aggregator

namespace Run

/-- The failure of a match whose span is no range of frames. -/
def Failure.isViolation : Failure → Bool
  | .sample (.span _) => true
  | _ => false

theorem code_unopened {e : Files.FileError} {ending : Ending} (h : Ending.unopened? e = some ending) :
    ending.code = ioExit := by
  unfold Ending.unopened? at h
  split at h <;> cases h <;> rfl

theorem code_settingsEnding {e : Settings.LoadError} {ending : Ending} (h : settingsEnding? e = some ending) :
    ending.code = configurationExit ∨ ending.code = ioExit := by
  unfold settingsEnding? at h
  split at h
  · cases h
    exact .inl rfl
  · split at h
    · cases h
      exact .inr rfl
    · exact .inr (code_unopened h)
    · cases h

theorem code_ruleEnding {e : RuleError} {ending : Ending} (h : ruleEnding? e = some ending) :
    ending.code = configurationExit := by
  cases e <;> cases h <;> rfl

/-- A foreseen failure that is no violation is one of what was asked for, or of a file. -/
theorem code_ending {failure : Failure} {ending : Ending} (h : failure.ending? = some ending)
    (hviolation : failure.isViolation = false) :
    ending.code = configurationExit ∨ ending.code = ioExit := by
  cases failure with
  | settings e => exact code_settingsEnding h
  | option e | query e =>
    cases h
    exact .inl rfl
  | log e | regex e | inputText e | limit e => cases h
  | rule e => exact .inl (code_ruleEnding h)
  | input e => exact .inr (code_unopened h)
  | sample e =>
    cases e with
    | rename e => cases h
    | span e => cases hviolation
  | build e =>
    cases e with
    | threshold | cutoff =>
      cases h
      exact .inl rfl
    | arithmetic e => cases h

theorem exitCode_of {result : Except Failure String} (h : ∀ e, result = .error e → e.isViolation = false) :
    (Outcome.of result).exitCode ≠ invariantExit := by
  cases result with
  | ok stdout =>
    change successExit ≠ invariantExit
    decide
  | error e =>
    rw [Outcome.of]
    cases hending : e.ending? with
    | none =>
      change escapedExit ≠ invariantExit
      decide
    | some ending =>
      change ending.code ≠ invariantExit
      rcases code_ending hending (h e rfl) with hcode | hcode <;> rw [hcode] <;> decide

theorem isViolation_of_mapError {α ε : Type} {x : Except ε α} {f : ε → Failure} {e : Failure}
    (h : x.mapError f = .error e) (hf : ∀ e, (f e).isViolation = false) : e.isViolation = false := by
  obtain ⟨cause, -, rfl⟩ := mapError_eq_error_iff.mp h
  exact hf cause

theorem patternOf_spec [Text.CharNames] (query : String) (cache : RegexCache) :
    (∀ compiled, patternOf query cache = .ok compiled → compiled.1.Grounded) ∧
      ∀ e, patternOf query cache = .error e → e.isViolation = false := by
  unfold patternOf
  split
  · next hparse =>
    refine ⟨fun compiled h => ?_, nofun⟩
    cases h
    exact Query.grounded_of_parseIn (congrArg Prod.fst hparse)
  · exact ⟨nofun, fun e h => by cases h; rfl⟩
  · exact ⟨nofun, fun e h => by cases h; rfl⟩

theorem grounded_of_planOf [Text.CharNames] {r : Request} {s : Settings} {p : Plan} (h : planOf r s = .ok p) :
    p.pattern.Grounded := by
  obtain ⟨⟨⟩, -, h⟩ := bind_eq_ok_iff.mp h
  obtain ⟨compiled, hcompiled, h⟩ := bind_eq_ok_iff.mp h
  obtain ⟨renamer, -, h⟩ := bind_eq_ok_iff.mp h
  cases h
  exact (patternOf_spec _ _).1 _ hcompiled

theorem isViolation_of_planOf [Text.CharNames] {r : Request} {s : Settings} {e : Failure} (h : planOf r s = .error e) :
    e.isViolation = false := by
  rcases bind_eq_error_iff.mp h with hcheck | ⟨⟨⟩, -, h⟩
  · exact isViolation_of_mapError hcheck fun _ => rfl
  rcases bind_eq_error_iff.mp h with hpattern | ⟨compiled, -, h⟩
  · exact (patternOf_spec _ _).2 _ hpattern
  rcases bind_eq_error_iff.mp h with hrules | ⟨renamer, -, h⟩
  · obtain ⟨e', -, rfl⟩ := mapError_eq_error_iff.mp (map_eq_error_iff.mp hrules)
    rfl
  · cases h

theorem isViolation_of_outputOf {p : Plan} (hp : p.pattern.Grounded) {stdin : List UInt8} {files : Files.Tree}
    {e : Failure} (h : outputOf p stdin files = .error e) : e.isViolation = false := by
  cases outputFault_of_outputOf h with
  | @sample samples cause hfailed =>
    cases cause with
    | rename e => rfl
    | span e => exact absurd hfailed (p.aggregator.count_ne_violation hp samples e)
  | input | limit | inputText | build | arithmetic => rfl

theorem exitCode_run [Text.CharNames] (l : Settings.Loader) (r : Request) (env : Settings.Environment)
    (stdin : List UInt8) (t : Trace) : (run l r env stdin t).1.exitCode ≠ invariantExit := by
  rw [outcome_run]
  refine exitCode_of fun e h => ?_
  rcases bind_eq_error_iff.mp h with hsettings | ⟨s, -, h⟩
  · exact isViolation_of_mapError hsettings fun _ => rfl
  rcases bind_eq_error_iff.mp h with hlogged | ⟨⟨⟩, -, h⟩
  · obtain ⟨cause, rfl⟩ := logged_eq_error hlogged
    rfl
  rcases bind_eq_error_iff.mp h with hplan | ⟨p, hp, h⟩
  · exact isViolation_of_planOf hplan
  · exact isViolation_of_outputOf (grounded_of_planOf hp) h

end Run

/-- An accepted query is evaluated on every sample without a violation. The span of a match is a range of
frames that is not empty, or the range of no frames at the start if all terms are absences; either way
the frames before, in and after it are those of the sample. A query with a term that is no absence never
matches the empty sample. No run ends with the code of a contradiction, and no command line does. -/
theorem accepted_query_never_violates [Text.CharNames] :
    (∀ {σ : Type} (compile : Query.Compiler σ) (store : σ) (query : String) (p : Query.Pattern),
      (Query.parseIn compile query store).1 = .ok p → ∀ frames : Sample,
      ∃ r, Query.evaluate p frames = .ok r ∧
        (r.matched = true → ∃ start stop : Nat, r.span = some ((start : Int), (stop : Int)) ∧
          ((∃ t ∈ p.terms, t.isAbsent = false) → start < stop ∧ stop ≤ frames.length) ∧
          ((∀ t ∈ p.terms, t.isAbsent = true) → start = 0 ∧ stop = 0) ∧
          ∃ callers inside callees, r.callers frames = .ok callers ∧ r.inside frames = .ok inside ∧
            r.callees frames = .ok callees ∧ callers ++ inside ++ callees = frames) ∧
        ((∃ t ∈ p.terms, t.isAbsent = false) → frames = [] → r.matched = false)) ∧
    (∀ (l : Settings.Loader) (r : Request) (env : Settings.Environment) (stdin : List UInt8) (t : Run.Trace),
      (Run.run l r env stdin t).1.exitCode ≠ Run.invariantExit) ∧
    ∀ stop : CommandLine.Stop, stop.exitCode ≠ Run.invariantExit := by
  refine ⟨?_, Run.exitCode_run, ?_⟩
  · intro σ compile store query p hparse frames
    obtain hr | ⟨start, stop, hr, hrange⟩ := Query.evaluate_of_grounded (Query.grounded_of_parseIn hparse) frames
    · exact ⟨_, hr, fun h => absurd h Bool.false_ne_true, fun _ _ => rfl⟩
    · refine ⟨_, hr, fun _ => ?_, ?_⟩
      · have hle : start ≤ stop := by
          by_cases hc : p.consumes = true
          · rw [if_pos hc] at hrange
            omega
          · rw [if_neg hc] at hrange
            omega
        refine ⟨start, stop, rfl, ?_, ?_, _, _, _, rfl, rfl, rfl, slice_append_slice frames hle⟩
        · intro hterm
          rwa [if_pos (Query.Pattern.consumes_iff.mpr hterm)] at hrange
        · intro habsent
          have hc : ¬ p.consumes = true := by
            rw [Query.Pattern.consumes_iff]
            rintro ⟨t, ht, hpresent⟩
            rw [habsent t ht] at hpresent
            cases hpresent
          rwa [if_neg hc] at hrange
      · rintro hterm rfl
        rw [if_pos (Query.Pattern.consumes_iff.mpr hterm)] at hrange
        obtain ⟨hlt, hend⟩ := hrange
        exact absurd hend (Nat.not_le.mpr (Nat.zero_lt_of_lt hlt))
  · intro stop
    cases stop <;> simp [CommandLine.Stop.exitCode, CommandLine.usageExit, Run.invariantExit]

/-- A match after an absence leaves callers, frames and callees. -/
theorem accepted_query_splits_sample :
    let compile : String → Except Regex.CompileError (Frame → Bool) := fun text => .ok (· == text)
    ∃ p r, Query.parseWith compile "!\x7ba\x7d,\x7bb\x7d" = .ok p ∧
      Query.evaluate p ["a", "b", "c"] = .ok r ∧ r.span = some (1, 2) ∧
      ∃ callers inside callees, r.callers ["a", "b", "c"] = .ok callers ∧
        r.inside ["a", "b", "c"] = .ok inside ∧ r.callees ["a", "b", "c"] = .ok callees ∧
        callers ++ inside ++ callees = ["a", "b", "c"] := by
  intro compile
  have hparse : Query.parseWith compile "!\x7ba\x7d,\x7bb\x7d" = .ok ⟨"!\x7ba\x7d,\x7bb\x7d",
      .seq (.absent (.leaf "a" (· == "a"))) (.leaf "b" (· == "b"))⟩ := by rfl
  obtain ⟨r, hr, hspan, -⟩ := accepted_query_never_violates.1 _ () _ _ hparse ["a", "b", "c"]
  cases hr
  obtain ⟨-, -, -, -, -, hsplit⟩ := hspan rfl
  exact ⟨_, _, hparse, rfl, rfl, hsplit⟩

end StackQuery
