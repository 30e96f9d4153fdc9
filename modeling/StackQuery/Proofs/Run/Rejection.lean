import StackQuery.Proofs.Aggregation.Chunked
import StackQuery.Proofs.Files.Places
import StackQuery.Proofs.Run.Options
import StackQuery.Proofs.Run.Outcome
import StackQuery.Proofs.Settings.LogVariable

/-!
# Rejected and failed runs

What a run is asked for is judged before its input is opened. So a run that is rejected is rejected with any input,
with the same words and the same log, unless the input stands in the way of the settings or of the log file. A run
that fails writes no report, and how samples are shared among workers does not change what a run comes to.
-/
namespace StackQuery

/-- The settings but for how the samples are counted. -/
def Settings.withoutRuntime (s : Settings) : Settings := { s with runtime := .default }

namespace Run

open Files (Tree Path)

/-- A failure that tells that what was asked for makes no sense. -/
def Failure.isRejection (e : Failure) : Bool := (e.ending?.map Ending.code) == some configurationExit

theorem exists_of_exitCode_eq {result : Except Failure String}
    (h : (Outcome.of result).exitCode = configurationExit) : ∃ e, result = .error e ∧ e.isRejection = true := by
  cases result with
  | ok stdout => cases h
  | error e =>
    refine ⟨e, rfl, ?_⟩
    rw [Outcome.of] at h
    rw [Failure.isRejection]
    cases hending : e.ending? with
    | none =>
      rw [hending] at h
      cases h
    | some ending =>
      rw [hending] at h
      exact beq_iff_eq.mpr (congrArg some h)

theorem isRejection_input (e : Files.FileError) : (Failure.input e).isRejection = false := by
  cases e with
  | nul e => rfl
  | refused fault path => cases fault <;> rfl

theorem isRejection_sample (e : SampleError) : (Failure.sample e).isRejection = false := by
  cases e <;> rfl

theorem isRejection_of_outputOf {p : Plan} (hp : p.options.InRange) {stdin : List UInt8} {files : Tree} {e : Failure}
    (h : outputOf p stdin files = .error e) : e.isRejection = false := by
  cases outputFault_of_outputOf h with
  | input cause => exact isRejection_input cause
  | sample => exact isRejection_sample _
  | build hfailed =>
    rw [Built.ofCounts_eq_error hp hfailed]
    rfl
  | limit | inputText | arithmetic => rfl

theorem planOf_eq_ok [Text.CharNames] {r : Request} {s : Settings} {p : Plan} (h : planOf r s = .ok p) :
    p.input = r.input ∧ p.options = .ofRequest r s ∧ p.options.InRange := by
  obtain ⟨⟨⟩, hcheck, h⟩ := bind_eq_ok_iff.mp h
  obtain ⟨compiled, -, h⟩ := bind_eq_ok_iff.mp h
  obtain ⟨renamer, -, h⟩ := bind_eq_ok_iff.mp h
  cases h
  exact ⟨rfl, rfl, Options.check_eq_ok_iff.mp (mapError_eq_ok_iff.mp hcheck)⟩

theorem inRange_of_settingsOf {l : Settings.Loader} (hl : l.Bounded) {r : Request} {env : Settings.Environment}
    {files : Tree} {s : Settings} (h : settingsOf l r env files = .ok s) : s.InRange := by
  rw [settingsOf] at h
  split at h
  · exact hl.inRange_of_ofEnvironment h
  · exact hl.inRange_of_load h

theorem plan_of_rejection [Text.CharNames] {l : Settings.Loader} {r : Request} {env : Settings.Environment}
    {files : Tree} {stdin : List UInt8} {e : Failure} (h : resultOf l r env files stdin = .error e)
    (he : e.isRejection = true) :
    preparedOf l r env files = .error e := by
  rw [preparedOf]
  rcases bind_eq_error_iff.mp h with hsettings | ⟨s, hs, h⟩
  · rw [hsettings]
    rfl
  refine bind_eq_error_iff.mpr (.inr ⟨s, hs, ?_⟩)
  rcases bind_eq_error_iff.mp h with hlogged | ⟨⟨⟩, hlogged, h⟩
  · exact bind_eq_error_iff.mpr (.inl hlogged)
  refine bind_eq_error_iff.mpr (.inr ⟨_, hlogged, ?_⟩)
  rcases bind_eq_error_iff.mp h with hplan | ⟨p, hp, hout⟩
  · exact hplan
  · rw [isRejection_of_outputOf (planOf_eq_ok hp).2.2 hout] at he
    cases he

theorem prepare_input [Text.CharNames] (l : Settings.Loader) (r : Request) (input : String)
    (env : Settings.Environment) :
    prepare l { r with input } env = prepare l r env >>= fun p => pure { p with input } := by
  simp only [prepare, bind_assoc, pure_bind]
  rfl

/-- Trees that a request cannot tell apart before it opens its input: the same stands on the way to its settings,
and the creation of the log file ends alike. -/
structure SameSetting (l : Settings.Loader) (r : Request) (env : Settings.Environment) (t u : Tree) : Prop where
  settings : ∀ path ∈ r.config, Tree.Agree (· ∈ path.way) t u
  log : ∀ s, settingsOf l r env t = .ok s → ∀ path ∈ (settledSetup r s).file, Tree.SameRoom path t u

/-- An input in a directory that is there, neither the settings nor the log file, and on the way to neither. -/
structure Apart (l : Settings.Loader) (r : Request) (env : Settings.Environment) (files : Tree) (input : Path) :
    Prop where
  directory : ∀ q, input.collapse.isBelow q = true → files.hasDirectory q = true
  settings : ∀ path ∈ r.config, input.collapse ∉ path.way
  log : ∀ s, settingsOf l r env files = .ok s → ∀ path ∈ (settledSetup r s).file,
    input.collapse ∉ path.way ∧ input.collapse ∉ path.collapse.way

variable {l : Settings.Loader} {r : Request} {env : Settings.Environment}

theorem Apart.sameSetting {files : Tree} {input : Path} (h : Apart l r env files input) (content : List UInt8) :
    SameSetting l r env files (files.insert input content) where
  settings path hpath := Tree.agree_insert (h.settings path hpath) (fun q _ => h.directory q) content
  log s hs path hpath :=
    Tree.sameRoom_of_agree (Tree.agree_insert (h.log s hs path hpath).1 (fun q _ => h.directory q) content)
      (Tree.agree_insert (h.log s hs path hpath).2 (fun q _ => h.directory q) content)

theorem load_congr {t u : Tree} {path : Path} (h : Tree.Agree (· ∈ path.way) t u) :
    l.load t env path = l.load u env path := by
  rw [Settings.Loader.load, Settings.Loader.load, Tree.present_congr h, Tree.openFile_congr h]

theorem loadSettings_withFiles (l : Settings.Loader) (env : Settings.Environment) (t : Trace) {files : Tree}
    (h : ∀ path ∈ r.config, Tree.Agree (· ∈ path.way) t.files files) :
    perform (loadSettings l r env) (t.withFiles files) =
      ((perform (loadSettings l r env) t).1, (perform (loadSettings l r env) t).2.withFiles files) := by
  unfold loadSettings
  cases hconfig : r.config with
  | none => exact (logs_check _ _).withFiles t files
  | some path =>
    have hload : l.load t.files env path = l.load files env path := load_congr (h path hconfig)
    have hrest (result : Except Settings.LoadError Settings) : Logs (do
        let settings ← check .settings result
        note .settingsLoaded
        return settings) (result.mapError .settings) :=
      (logs_check _ _).before fun settings => (logs_note _).after (logs_pure settings)
    have hrun := (hrest (l.load t.files env path)).withFiles (perform (note (.settingsLoading path.text)) t).2 files
    conv at hrun =>
      lhs
      rw [hload]
    exact hrun

/-- The log is set up alike where the creation of its file ends alike. -/
theorem configured_withFiles {setup : Log.Setup} {t : Trace} {files : Tree}
    (h : ∀ path ∈ setup.file, Tree.SameRoom path t.files files) :
    logged setup files = logged setup t.files ∧
      ∃ files', (t.withFiles files).configured setup = (t.configured setup).withFiles files' := by
  have hjournal : (t.journal.configure setup files).2.1 = (t.journal.configure setup t.files).2.1 := by
    rw [Log.Journal.configure, Log.Journal.configure]
    cases hfile : setup.file with
    | none => rfl
    | some path =>
      have hroom : (t.files.create path).1 = (files.create path).1 := h path hfile
      revert hroom
      dsimp only
      rcases t.files.create path with ⟨result, left⟩
      rcases files.create path with ⟨result', left'⟩
      rintro rfl
      rcases result with (e | e) | ⟨⟩ <;> rfl
  constructor
  · rw [logged, logged]
    cases hfile : setup.file with
    | none => rfl
    | some path =>
      have hroom : (t.files.create path).1 = (files.create path).1 := h path hfile
      rw [Option.map_some, Option.map_some, hroom]
  · refine ⟨(t.journal.configure setup files).2.2, ?_⟩
    rw [Trace.configured, Trace.withFiles, Trace.withFiles, Trace.configured]
    dsimp only
    rw [hjournal]

theorem opening_withFiles {t : Trace} {files : Tree} (h : SameSetting l r env t.files files) :
    perform (opening l r env) (t.withFiles files) =
      ((perform (opening l r env) t).1, (perform (opening l r env) t).2.withFiles files) :=
  loadSettings_withFiles l env (perform (note (.starting r.query)) t).2 h.settings

theorem prepare_withFiles [Text.CharNames] {t : Trace} {files : Tree} (h : SameSetting l r env t.files files) :
    ∃ files', perform (prepare l r env) (t.withFiles files) =
      ((perform (prepare l r env) t).1, (perform (prepare l r env) t).2.withFiles files') := by
  have hother := opening_withFiles h
  obtain ⟨hvalue, hfiles⟩ := reads_opening l r env t
  obtain ⟨result, t', hopening⟩ : ∃ result t', perform (opening l r env) t = (result, t') := ⟨_, _, rfl⟩
  rw [hopening] at hother hvalue hfiles
  dsimp only at hother hvalue hfiles
  cases result with
  | error e =>
    refine ⟨files, ?_⟩
    rw [perform_prepare_of_unopened hopening, perform_prepare_of_unopened hother]
  | ok s =>
    have hs : settingsOf l r env t.files = .ok s := mapError_eq_ok_iff.mp hvalue.symm
    have hroom : ∀ path ∈ (settledSetup r s).file, Tree.SameRoom path t'.files files := by
      rw [hfiles]
      exact h.log s hs
    obtain ⟨hsame, files', hconfigured⟩ := configured_withFiles hroom
    refine ⟨files', ?_⟩
    cases hlogged : logged (settledSetup r s) t'.files with
    | error e =>
      rw [perform_prepare_of_unlogged hopening hlogged,
        perform_prepare_of_unlogged hother (hsame.trans hlogged), hconfigured]
    | ok =>
      rw [perform_prepare_of_logged hopening hlogged,
        perform_prepare_of_logged hother (hsame.trans hlogged), hconfigured]
      exact (logs_planUnder r s).withFiles _ _

theorem run_of_prepare_error [Text.CharNames] {t t' : Trace} {e : Failure}
    (h : perform (prepare l r env) t = (.error e, t')) (stdin : List UInt8) : run l r env stdin t = fail e t' :=
  run_of_error (perform_bind_of_error h _)

theorem fail_withFiles (e : Failure) (t : Trace) (files : Tree) :
    fail e (t.withFiles files) = ((fail e t).1, (fail e t).2.withFiles files) := by
  rw [fail, fail]
  cases e.ending? <;> rfl

theorem rejection_of_other_input [Text.CharNames] {t : Trace} {stdin : List UInt8}
    (h : (run l r env stdin t).1.exitCode = configurationExit) {files : Tree}
    (hfiles : SameSetting l r env t.files files) (input : String) (stdin' : List UInt8) :
    ∃ files', run l { r with input } env stdin' (t.withFiles files) =
      ((run l r env stdin t).1, (run l r env stdin t).2.withFiles files') := by
  rw [outcome_run] at h
  obtain ⟨e, hresult, he⟩ := exists_of_exitCode_eq h
  have hfailed : perform (prepare l r env) t = (.error e, (perform (prepare l r env) t).2) :=
    Prod.ext ((prepare_spec l r env t).1.trans (plan_of_rejection hresult he)) rfl
  obtain ⟨files', hother⟩ := prepare_withFiles hfiles
  rw [hfailed] at hother
  have hinput : perform (prepare l { r with input } env) (t.withFiles files) =
      (.error e, (perform (prepare l r env) t).2.withFiles files') := by
    rw [prepare_input, perform_bind, hother]
  exact ⟨files', by rw [run_of_prepare_error hinput, run_of_prepare_error hfailed, fail_withFiles]⟩

/-- Options that differ in how samples are counted are checked alike, if there are workers. -/
theorem check_withRuntime {o : Options} (h : 1 ≤ o.workers) {workers : Int} (hworkers : 1 ≤ workers) (chunkSize : Int) :
    ({ o with workers, chunkSize } : Options).check = o.check := by
  simp only [Options.check, if_neg (Int.not_lt.mpr h), if_neg (Int.not_lt.mpr hworkers)]

theorem planOf_withRuntime [Text.CharNames] {s : Settings} (workers : Option Int) (config : Option Path)
    (runtime : Settings.Runtime) (h : 1 ≤ (Options.ofRequest r s).workers)
    (h' : 1 ≤ (Options.ofRequest { r with workers, config } { s with runtime }).workers) :
    planOf { r with workers, config } { s with runtime } = (planOf r s).map fun p =>
      { p with options := { p.options with
          workers := (Options.ofRequest { r with workers, config } { s with runtime }).workers
          chunkSize := runtime.chunkSize } } := by
  have hcheck : (Options.ofRequest { r with workers, config } { s with runtime }).check =
      (Options.ofRequest r s).check := check_withRuntime h h' runtime.chunkSize
  rw [planOf, planOf]
  dsimp only
  rw [hcheck]
  cases (Options.ofRequest r s).check with
  | error e => rfl
  | ok =>
    change (patternOf r.query .empty >>= _) = (patternOf r.query .empty >>= _).map _
    cases patternOf r.query .empty with
    | error e => rfl
    | ok compiled =>
      change (renamerOf (s.rulePairs ++ r.rename) compiled.2 >>= _) =
        (renamerOf (s.rulePairs ++ r.rename) compiled.2 >>= _).map _
      cases renamerOf (s.rulePairs ++ r.rename) compiled.2 <;> rfl

/-- Options within what the platform can do. -/
def Options.WithinLimits (o : Options) : Prop := Aggregator.WithinLimits o.mode o.workers o.chunkSize

theorem outputOf_withRuntime {p : Plan} (hp : p.options.WithinLimits) {workers chunkSize : Int}
    (h : ({ p.options with workers, chunkSize } : Options).WithinLimits) (stdin : List UInt8) (files : Tree) :
    outputOf { p with options := { p.options with workers, chunkSize } } stdin files = outputOf p stdin files := by
  have hcounts (content : List UInt8) :
      countsOf { p with options := { p.options with workers, chunkSize } } content = countsOf p content := by
    rw [countsOf, countsOf]
    dsimp only
    rw [Aggregator.limits_eq_ok_iff.mpr hp, Aggregator.limits_eq_ok_iff.mpr h]
    rfl
  simp only [outputOf, hcounts]
  rfl

/-- Trees in which a run finds the same input: the same stands on the way to it, and on the way to the log file. -/
structure SameInput (l : Settings.Loader) (r : Request) (env : Settings.Environment) (t u : Tree) : Prop where
  input : r.input ≠ Request.standardInput → Tree.Agree (· ∈ (Path.ofText r.input).way) t u
  log : ∀ s, settingsOf l r env t = .ok s → ∀ path ∈ (settledSetup r s).file,
    Tree.Agree (· ∈ path.way) t u ∧ Tree.Agree (· ∈ path.collapse.way) t u

/-- Trees that agree on the way to the log file get it alike, and still agree where they did. -/
theorem agree_filesUnder {setup : Log.Setup} {t u : Tree}
    (hlog : ∀ path ∈ setup.file, Tree.Agree (· ∈ path.way) t u ∧ Tree.Agree (· ∈ path.collapse.way) t u) :
    logged setup t = logged setup u ∧
      ∀ among, Tree.Agree among t u → Tree.Agree among (filesUnder setup t) (filesUnder setup u) := by
  rw [logged, logged, filesUnder, filesUnder]
  cases hfile : setup.file with
  | none => exact ⟨rfl, fun _ h => h⟩
  | some path =>
    obtain ⟨hway, hplace⟩ := hlog path hfile
    obtain ⟨result, change, hkeeps, ht, hu⟩ := Tree.create_congr hway hplace
    dsimp only
    rw [Option.map_some, Option.map_some, ht, hu]
    exact ⟨rfl, fun among h => hkeeps among t u h⟩

theorem outputOf_congr {p : Plan} {t u : Tree}
    (h : p.input ≠ Request.standardInput → Tree.Agree (· ∈ (Path.ofText p.input).way) t u) (stdin : List UInt8) :
    outputOf p stdin t = outputOf p stdin u := by
  have hcontent : contentOf p.input stdin t = contentOf p.input stdin u := by
    rw [contentOf, contentOf]
    split
    · rfl
    · next hinput => rw [Tree.openFile_congr (h (by simpa using hinput))]
  rw [outputOf, outputOf, hcontent]

theorem one_le_workers {s : Settings} (hworkers : ∀ n ∈ r.workers, 1 ≤ n) (hs : s.InRange) :
    1 ≤ (Options.ofRequest r s).workers := by
  change 1 ≤ r.workers.getD s.runtime.workers
  cases hr : r.workers with
  | none => exact hs.workers.1
  | some n => exact hworkers n hr

theorem exists_withRuntime {s s' : Settings} (h : s.withoutRuntime = s'.withoutRuntime) :
    ∃ runtime, s' = { s with runtime } := by
  refine ⟨s'.runtime, ?_⟩
  cases s
  cases s'
  cases h
  rfl

theorem failed_or_withRuntime {ε : Type} {x y : Except ε Settings}
    (h : y.map Settings.withoutRuntime = x.map Settings.withoutRuntime) :
    (∃ e, x = .error e ∧ y = .error e) ∨ ∃ s runtime, x = .ok s ∧ y = .ok { s with runtime } := by
  cases x with
  | error e =>
    cases y with
    | error e' =>
      cases h
      exact .inl ⟨e, rfl, rfl⟩
    | ok s' => cases h
  | ok s =>
    cases y with
    | error e' => cases h
    | ok s' =>
      obtain ⟨runtime, rfl⟩ := exists_withRuntime (Except.ok.inj h).symm
      exact .inr ⟨s, runtime, rfl, rfl⟩

/-- Runs under settings that differ in how samples are counted come to the same within the limits. -/
theorem resultOf_withRuntime [Text.CharNames] (hl : l.Bounded) {workers : Option Int} {config : Option Path}
    {env' : Settings.Environment} {files files' : Tree} (hworkers : ∀ n ∈ r.workers, 1 ≤ n)
    (hworkers' : ∀ n ∈ workers, 1 ≤ n)
    (hsettings : (settingsOf l { r with workers, config } env' files').map Settings.withoutRuntime =
      (settingsOf l r env files).map Settings.withoutRuntime)
    (hlimits : ∀ s, settingsOf l r env files = .ok s → (Options.ofRequest r s).WithinLimits)
    (hlimits' : ∀ s, settingsOf l { r with workers, config } env' files' = .ok s →
      (Options.ofRequest { r with workers, config } s).WithinLimits)
    (hinput : SameInput l r env files files') (stdin : List UInt8) :
    resultOf l { r with workers, config } env' files' stdin = resultOf l r env files stdin := by
  obtain ⟨e, hs, hs'⟩ | ⟨s, runtime, hs, hs'⟩ := failed_or_withRuntime hsettings
  · rw [resultOf, resultOf, hs, hs']
    rfl
  have hplan := planOf_withRuntime workers config runtime
    (one_le_workers hworkers (inRange_of_settingsOf hl hs))
    (one_le_workers hworkers' (inRange_of_settingsOf hl hs'))
  obtain ⟨hlogged, hagree⟩ := agree_filesUnder (hinput.log s hs)
  have hlogged' : logged (settledSetup r s) files' = logged (settledSetup r s) files := hlogged.symm
  rw [resultOf_eq hs, resultOf_eq hs', hplan]
  change (logged (settledSetup r s) files' >>= fun _ => _) = _
  rw [hlogged']
  refine bind_congr fun _ => ?_
  cases hp : planOf r s with
  | error e => rfl
  | ok p =>
    obtain ⟨hpath, hoptions, -⟩ := planOf_eq_ok hp
    have hwithin : p.options.WithinLimits := hoptions ▸ hlimits s hs
    have hwithin' : ({ p.options with
        workers := (Options.ofRequest { r with workers, config } { s with runtime }).workers
        chunkSize := runtime.chunkSize } : Options).WithinLimits := by
      rw [hoptions]
      exact hlimits' _ hs'
    change outputOf { p with options := { p.options with workers := _, chunkSize := runtime.chunkSize } } stdin
      (filesUnder (settledSetup r s) files') = outputOf p stdin (filesUnder (settledSetup r s) files)
    rw [outputOf_withRuntime hwithin hwithin']
    refine (outputOf_congr (fun hstdin => ?_) stdin).symm
    rw [hpath] at hstdin ⊢
    exact hagree _ (hinput.input hstdin)

/-- What a run writes to the standard output. -/
def Outcome.stdout : Outcome → String
  | ended _ stdout _ => stdout
  | escaped _ => ""

theorem stdout_of_failed {result : Except Failure String} (h : (Outcome.of result).exitCode ≠ successExit) :
    (Outcome.of result).stdout = "" := by
  cases result with
  | ok stdout => exact absurd rfl h
  | error e =>
    rw [Outcome.of]
    cases e.ending? <;> rfl

/-- A plan has the workers and chunks that a pass in chunks asks for. -/
theorem modeOf_of_prepare [Text.CharNames] (hl : l.Bounded) {t t' : Trace} {plan : Plan}
    (h : perform (prepare l r env) t = (.ok plan, t')) :
    Aggregator.modeOf plan.options.workers plan.options.chunkSize = .ok plan.options.mode := by
  have hplan := (prepare_spec l r env t).1
  rw [h] at hplan
  obtain ⟨s, hs, hplan⟩ := bind_eq_ok_iff.mp hplan.symm
  obtain ⟨⟨⟩, -, hp⟩ := bind_eq_ok_iff.mp hplan
  obtain ⟨-, hoptions, hrange⟩ := planOf_eq_ok hp
  refine hrange.modeOf_eq ?_
  rw [hoptions]
  exact (inRange_of_settingsOf hl (mapError_eq_ok_iff.mp hs)).chunkSize

/-- A run that is rejected is rejected with every other input in the same way, with the same log, unless the input
is in the way of the settings or of the log file; an input apart from them is not. A run that fails, foreseen or not,
writes no report. Neither the number of workers nor the size of chunks, in the request, in the environment or in the
settings, changes the exit code or what is written within the limits of the platform; and what a pass in chunks checks
once more holds for every plan. -/
theorem rejected_run_ignores_input [Text.CharNames] {l : Settings.Loader} (hl : l.Bounded) (r : Request)
    (env : Settings.Environment) (files : Tree) (stdin : List UInt8) :
    ((runFresh l r env files stdin).1.exitCode = configurationExit →
      ∀ (input : String) (files' : Tree) (stdin' : List UInt8), SameSetting l r env files files' →
        (runFresh l { r with input } env files' stdin').1 = (runFresh l r env files stdin).1 ∧
        (runFresh l { r with input } env files' stdin').2.journal = (runFresh l r env files stdin).2.journal ∧
        (runFresh l { r with input } env files' stdin').2.metrics = (runFresh l r env files stdin).2.metrics) ∧
    (∀ (input : Path) (content : List UInt8), Apart l r env files input →
      SameSetting l r env files (files.insert input content)) ∧
    ((runFresh l r env files stdin).1.exitCode ≠ successExit → (runFresh l r env files stdin).1.stdout = "") ∧
    (∀ (workers : Option Int) (config : Option Path) (env' : Settings.Environment) (files' : Tree),
      (∀ n ∈ r.workers, 1 ≤ n) → (∀ n ∈ workers, 1 ≤ n) →
      (settingsOf l { r with workers, config } env' files').map Settings.withoutRuntime =
        (settingsOf l r env files).map Settings.withoutRuntime →
      (∀ s, settingsOf l r env files = .ok s → (Options.ofRequest r s).WithinLimits) →
      (∀ s, settingsOf l { r with workers, config } env' files' = .ok s →
        (Options.ofRequest { r with workers, config } s).WithinLimits) →
      SameInput l r env files files' →
        (runFresh l { r with workers, config } env' files' stdin).1.exitCode =
          (runFresh l r env files stdin).1.exitCode ∧
        (runFresh l { r with workers, config } env' files' stdin).1.stdout =
          (runFresh l r env files stdin).1.stdout) ∧
    ∀ (t t' : Trace) (plan : Plan), perform (prepare l r env) t = (.ok plan, t') →
      Aggregator.modeOf plan.options.workers plan.options.chunkSize = .ok plan.options.mode := by
  refine ⟨fun h input files' stdin' hfiles => ?_, fun input content h => h.sameSetting content, fun h => ?_, ?_,
    fun _ _ _ h => modeOf_of_prepare hl h⟩
  · obtain ⟨left, hrun⟩ := rejection_of_other_input (t := .start (firstSetup r) files) h hfiles input stdin'
    change runFresh l { r with input } env files' stdin' = _ at hrun
    rw [hrun]
    exact ⟨rfl, rfl, rfl⟩
  · rw [runFresh, outcome_run] at h ⊢
    exact stdout_of_failed h
  · intro workers config env' files' hworkers hworkers' hsettings hlimits hlimits' hinput
    have hresult := resultOf_withRuntime hl hworkers hworkers' hsettings hlimits hlimits' hinput stdin
    have hsame : (runFresh l { r with workers, config } env' files' stdin).1 = (runFresh l r env files stdin).1 := by
      rw [runFresh, runFresh, outcome_run, outcome_run]
      exact congrArg Outcome.of hresult
    rw [hsame]
    exact ⟨rfl, rfl⟩

theorem file_settledSetup {files : Tree} {s : Settings} (hconfig : r.config = none)
    (hs : settingsOf .standard r [] files = .ok s) (path : Path) : path ∉ (settledSetup r s).file := by
  have hdisabled : (Settings.Loader.standard.ofEnvironment []).toOption.map (fun s => s.logging.file.enabled) =
      some false := by
    decide +kernel
  rw [settingsOf, hconfig] at hs
  dsimp only at hs
  rw [hs] at hdisabled
  have hnone : (settledSetup r s).file = none :=
    if_neg (by rw [show s.logging.file.enabled = false from Option.some.inj hdisabled]; exact Bool.false_ne_true)
  rw [hnone]
  exact nofun

/-- A threshold out of range is rejected whether or not there is the input; a run over the standard input comes to the
same with two workers. -/
theorem rejected_run_ignores_input_missing :
    let l := Settings.Loader.standard
    let refused : Request := { Request.ofQuery "\x7ba\x7d" with threshold := some 0 }
    let files := Tree.empty.insert ⟨"", ["in"]⟩ [0]
    let asked : Request := Request.ofQuery "\x7ba\x7d"
    let stdin := "x\n 1 a\n".toUTF8.toList
    ((runFresh l refused [] .empty []).1.exitCode = configurationExit ∧
      (runFresh l { refused with input := "in" } [] files stdin).1 = (runFresh l refused [] .empty []).1 ∧
      (runFresh l { refused with input := "in" } [] files stdin).2.journal =
        (runFresh l refused [] .empty []).2.journal ∧
      (runFresh l refused [] .empty []).1.stdout = "") ∧
    (runFresh l asked [] .empty stdin).1.exitCode = successExit ∧
    ((runFresh l { asked with workers := some 2 } [] .empty stdin).1.exitCode =
        (runFresh l asked [] .empty stdin).1.exitCode ∧
      (runFresh l { asked with workers := some 2 } [] .empty stdin).1.stdout =
        (runFresh l asked [] .empty stdin).1.stdout) ∧
    ∃ plan t', perform (prepare l asked []) (.start (firstSetup asked) .empty) = (.ok plan, t') ∧
      Aggregator.modeOf plan.options.workers plan.options.chunkSize = .ok plan.options.mode := by
  intro l refused files asked stdin
  have hrefused : (runFresh l refused [] .empty []).1.exitCode = configurationExit := by decide +kernel
  have hapart : Apart l refused [] .empty ⟨"", ["in"]⟩ := by
    refine ⟨fun q hq => ?_, (fun path hpath => by cases hpath),
      fun s hs path hpath => absurd hpath (file_settledSetup rfl hs path)⟩
    have hcollapse : (⟨"", ["in"]⟩ : Path).collapse = ⟨"", ["in"]⟩ := by decide +kernel
    rw [hcollapse, Path.isBelow, Bool.and_eq_true, Bool.and_eq_true, decide_eq_true_eq] at hq
    have hparts : q.parts = [] := List.eq_nil_of_length_eq_zero (by simpa using hq.1.2)
    rw [Tree.hasDirectory, hparts]
    rfl
  have hbounded : l.Bounded := Settings.Loader.bounded_standard
  have hplace := (rejected_run_ignores_input hbounded refused [] .empty []).2.1 _ [0] hapart
  obtain ⟨hout, hjournal, -⟩ :=
    (rejected_run_ignores_input hbounded refused [] .empty []).1 hrefused "in" files stdin hplace
  have hempty := (rejected_run_ignores_input hbounded refused [] .empty []).2.2.1 (by rw [hrefused]; decide)
  have hsame : SameInput l asked [] .empty .empty :=
    ⟨fun _ _ _ => rfl, fun s hs path hpath => absurd hpath (file_settledSetup rfl hs path)⟩
  have hsettings : settingsOf l asked [] .empty = .ok .default := rfl
  have hworkers := (rejected_run_ignores_input hbounded asked [] .empty stdin).2.2.2.1 (some 2) none [] .empty
    (fun n hn => by cases hn) (fun n hn => Option.some.inj hn ▸ by decide) rfl
    (fun s hs => by cases hsettings.symm.trans hs; exact fun hmode => absurd hmode (by decide))
    (fun s hs => by cases hsettings.symm.trans hs; exact fun _ => ⟨by decide, by decide⟩) hsame
  refine ⟨⟨hrefused, hout, hjournal, hempty⟩, by decide +kernel, hworkers, ?_⟩
  have hprepared : (perform (prepare l asked []) (.start (firstSetup asked) .empty)).1.isOk = true := by
    decide +kernel
  cases hp : perform (prepare l asked []) (.start (firstSetup asked) .empty) with
  | mk result t' =>
    cases result with
    | error e =>
      rw [hp] at hprepared
      cases hprepared
    | ok plan =>
      exact ⟨plan, t', rfl, (rejected_run_ignores_input hbounded asked [] .empty stdin).2.2.2.2 _ t' plan hp⟩

/-- A run that is rejected for an option has its log set up, and nothing else done. -/
theorem runFresh_of_option_error [Text.CharNames] {s : Settings} {e : OptionError} {files : Tree}
    (hconfig : r.config = none) (hs : l.ofEnvironment env = .ok s) (hlogged : logged (settledSetup r s) files = .ok ())
    (he : (Options.ofRequest r s).check = .error e) (stdin : List UInt8) :
    runFresh l r env files stdin = fail (.option e)
      ((perform (note (.starting r.query)) (.start (firstSetup r) files)).2.configured (settledSetup r s)) := by
  have hload : loadSettings l r env = pure s := by
    rw [loadSettings, hconfig]
    dsimp only
    rw [hs, check_ok]
  have hplan (t : Trace) : perform (planUnder r s) t = (.error (.option e), t) := by
    rw [planUnder]
    dsimp only
    rw [he]
    rfl
  have hopening : perform (opening l r env) (.start (firstSetup r) files) =
      (.ok s, (perform (note (.starting r.query)) (.start (firstSetup r) files)).2) := by
    rw [opening, hload]
    rfl
  exact run_of_prepare_error ((perform_prepare_of_logged hopening hlogged).trans (hplan _)) stdin

/-- An input may be a file where the directory of the log file is to be made: then the log of a rejected run has a
warning that it does not have without the input. And there may be more workers than the platform has: then a run fails
that does not with one. -/
theorem rejected_run_warns_of_input :
    let l := Settings.Loader.standard
    let text := "\x7b\"file\":\x7b\"enabled\":true,\"path\":\"d/l\"\x7d\x7d"
    let env : Settings.Environment := [(Settings.logVariable, text)]
    let refused : Request := { Request.ofQuery "\x7ba\x7d" with input := "d", threshold := some 0 }
    let files := Tree.empty.insert (.ofText "d") []
    let asked : Request := Request.ofQuery "\x7ba\x7d"
    ((∃ s, settingsOf l refused env .empty = .ok s ∧ settingsOf l refused env files = .ok s ∧
      (settledSetup refused s).file = some (.ofText "d/l")) ∧
    refused.config = none ∧ Path.ofText refused.input ≠ .ofText "d/l" ∧
    (runFresh l refused env .empty []).1.exitCode = configurationExit ∧
    (runFresh l refused env files []).1.exitCode = configurationExit ∧
    (runFresh l refused env files []).2.journal.console ≠ (runFresh l refused env .empty []).2.journal.console) ∧
    (runFresh l { asked with workers := some 1 } [] .empty []).1.exitCode = successExit ∧
    (runFresh l { asked with workers := some 2147483647 } [] .empty []).1.exitCode = escapedExit := by
  intro l text env refused files asked
  have hd : Path.ofText "d" = ⟨"", ["d"]⟩ := by decide +kernel
  have hl : Path.ofText "d/l" = ⟨"", ["d", "l"]⟩ := by decide +kernel
  have hlogFile : Settings.isLogFile "d/l" (Json.read? text) = true := by decide +kernel
  have hs := Settings.ofEnvironment_logFile hlogFile
  rw [hl] at hs
  have hrun (files : Tree) (hlogged : logged (settledSetup refused _) files = .ok ()) :=
    runFresh_of_option_error (r := refused) (e := .threshold 0) rfl hs hlogged (by decide +kernel) []
  have hfiles : files = Tree.empty.insert ⟨"", ["d"]⟩ [] := by rw [← hd]
  have hwithout := hrun .empty (by decide +kernel)
  have hwith := hrun (Tree.empty.insert ⟨"", ["d"]⟩ []) (by decide +kernel)
  rw [hfiles]
  refine ⟨⟨⟨_, hs, hs, hl.symm ▸ rfl⟩, rfl, ?_, ?_, ?_, ?_⟩, by decide +kernel, by decide +kernel⟩
  · rw [hl]
    change Path.ofText "d" ≠ _
    rw [hd]
    decide
  · rw [hwithout]
    decide +kernel
  · rw [hwith]
    decide +kernel
  · intro hsame
    have hlength := congrArg List.length hsame
    rw [hwithout, hwith] at hlength
    exact absurd hlength (by decide +kernel)

end Run

end StackQuery
