import StackQuery.Proofs.Aggregation.Passes
import StackQuery.Proofs.Run.Effect
import StackQuery.Run.Execution

/-!
# The outcome of a run

A run leaves a trace, but what comes of it depends on the trace only through the files: through the settings, and
through the input after the log file was created. So the outcome of a run can be said without its trace.
-/
namespace StackQuery.Run

open Files (Tree)

def settingsOf (l : Settings.Loader) (r : Request) (env : Settings.Environment) (files : Tree) :
    Except Settings.LoadError Settings :=
  match r.config with
  | none => l.ofEnvironment env
  | some path => l.load files env path

/-- What comes of setting up the log: nothing, unless nobody asks the system for its file. -/
def logged (setup : Log.Setup) (files : Tree) : Except Failure Unit :=
  match setup.file.map fun path => (files.create path).1 with
  | some (.error (.nul e)) => .error (.log e)
  | _ => .ok ()

theorem logged_eq_error {setup : Log.Setup} {files : Tree} {e : Failure} (h : logged setup files = .error e) :
    ∃ cause, e = .log cause := by
  unfold logged at h
  split at h <;> cases h
  exact ⟨_, rfl⟩

/-- The files after the log was set up. -/
def filesUnder (setup : Log.Setup) (files : Tree) : Tree :=
  match setup.file with
  | none => files
  | some path => (files.create path).2

def patternOf [Text.CharNames] (query : String) (cache : RegexCache) : Except Failure (Query.Pattern × RegexCache) :=
  match Query.parseIn RegexCache.accepts query cache with
  | (.ok pattern, after) => .ok (pattern, after)
  | (.error (.rejected e), _) => .error (.query e)
  | (.error (.refused e), _) => .error (.regex e)

def renamerOf [Text.CharNames] (pairs : List (String × String)) (cache : RegexCache) : Except Failure Renamer :=
  ((Renamer.ofPairsIn RegexCache.compile pairs cache).1.mapError .rule).map Renamer.mk

/-- The plan of a request under settings. -/
def planOf [Text.CharNames] (r : Request) (s : Settings) : Except Failure Plan := do
  let options := Options.ofRequest r s
  options.check.mapError .option
  let (pattern, cache) ← patternOf r.query .empty
  let renamer ← renamerOf (s.rulePairs ++ r.rename) cache
  return ⟨r.modeOrSummary, r.input, options, pattern, renamer⟩

def contentOf (path : String) (stdin : List UInt8) (files : Tree) : Except Failure (List UInt8) :=
  if path == Request.standardInput then .ok stdin
  else (files.openFile (.ofText path)).mapError .input

/-- The items in the content of the input, and their counts, within the limits of the platform. -/
def countsOf (p : Plan) (content : List UInt8) : Except Failure (List Profile.Item × Counts) := do
  let o := p.options
  (Aggregator.limits o.mode o.workers o.chunkSize).mapError .limit
  let items ← (itemsOf p content).mapError .inputText
  let counts ← (p.aggregator.count (Profile.samples items)).mapError .sample
  return (items, counts)

/-- The report of a plan about counts. -/
def reportOf (p : Plan) (counts : Counts) : Except Failure String := do
  let built ← (Built.ofCounts p counts).mapError .build
  built.text.mapError fun e => .build (.arithmetic e)

/-- What a plan writes to the standard output. -/
def outputOf (p : Plan) (stdin : List UInt8) (files : Tree) : Except Failure String := do
  let content ← contentOf p.input stdin files
  let counted ← countsOf p content
  let text ← reportOf p counted.2
  return text ++ "\n"

/-- How the carrying out of a plan can fail. -/
inductive OutputFault (p : Plan) : Failure → Prop
  | input (cause : Files.FileError) : OutputFault p (.input cause)
  | limit (cause : LimitError) : OutputFault p (.limit cause)
  | inputText (cause : Utf8.Ill) : OutputFault p (.inputText cause)
  | sample {samples : List Sample} {cause : SampleError} : p.aggregator.count samples = .error cause →
      OutputFault p (.sample cause)
  | build {counts : Counts} {cause : Report.BuildError} : Built.ofCounts p counts = .error cause →
      OutputFault p (.build cause)
  | arithmetic (cause : ArithmeticError) : OutputFault p (.build (.arithmetic cause))

theorem outputFault_of_contentOf {p : Plan} {path : String} {stdin : List UInt8} {files : Tree} {e : Failure}
    (h : contentOf path stdin files = .error e) : OutputFault p e := by
  rw [contentOf] at h
  split at h
  · cases h
  · obtain ⟨cause, -, rfl⟩ := mapError_eq_error_iff.mp h
    exact .input cause

theorem outputFault_of_countsOf {p : Plan} {content : List UInt8} {e : Failure} (h : countsOf p content = .error e) :
    OutputFault p e := by
  rcases bind_eq_error_iff.mp h with hlimits | ⟨⟨⟩, -, h⟩
  · obtain ⟨cause, -, rfl⟩ := mapError_eq_error_iff.mp hlimits
    exact .limit cause
  rcases bind_eq_error_iff.mp h with hitems | ⟨items, -, h⟩
  · obtain ⟨cause, -, rfl⟩ := mapError_eq_error_iff.mp hitems
    exact .inputText cause
  rcases bind_eq_error_iff.mp h with hcount | ⟨counts, -, h⟩
  · obtain ⟨cause, hfailed, rfl⟩ := mapError_eq_error_iff.mp hcount
    exact .sample hfailed
  · cases h

theorem outputFault_of_reportOf {p : Plan} {counts : Counts} {e : Failure} (h : reportOf p counts = .error e) :
    OutputFault p e := by
  rcases bind_eq_error_iff.mp h with hbuilt | ⟨built, -, htext⟩
  · obtain ⟨cause, hfailed, rfl⟩ := mapError_eq_error_iff.mp hbuilt
    exact .build hfailed
  · obtain ⟨cause, -, rfl⟩ := mapError_eq_error_iff.mp htext
    exact .arithmetic cause

theorem outputFault_of_outputOf {p : Plan} {stdin : List UInt8} {files : Tree} {e : Failure}
    (h : outputOf p stdin files = .error e) : OutputFault p e := by
  rcases bind_eq_error_iff.mp h with hcontent | ⟨content, -, h⟩
  · exact outputFault_of_contentOf hcontent
  rcases bind_eq_error_iff.mp h with hcounts | ⟨counted, -, h⟩
  · exact outputFault_of_countsOf hcounts
  rcases bind_eq_error_iff.mp h with hreport | ⟨text, -, h⟩
  · exact outputFault_of_reportOf hreport
  · cases h

theorem reads_loadSettings (l : Settings.Loader) (r : Request) (env : Settings.Environment) :
    Reads (loadSettings l r env) fun files => (settingsOf l r env files).mapError .settings := by
  unfold loadSettings settingsOf
  cases r.config with
  | none => exact (logs_check _ _).reads
  | some path =>
    refine (logs_note _).readsAfter (reads_get fun t => ?_)
    exact (logs_check _ _).before fun settings => (logs_note _).after (logs_pure settings)

theorem logs_noteCache (earlier later : RegexCache) : Logs (noteCache earlier later) (.ok ()) :=
  (logs_forEach fun _ => logs_note _).after (logs_measure _)

theorem logs_compileQuery [Text.CharNames] (query : String) (cache : RegexCache) :
    Logs (compileQuery query cache) (patternOf query cache) := by
  unfold compileQuery patternOf
  cases Query.parseIn RegexCache.accepts query cache with
  | mk result after =>
    refine (logs_noteCache cache after).after ?_
    cases result with
    | ok pattern => exact (logs_note _).after (logs_pure _)
    | error e =>
      cases e with
      | rejected e => exact (logs_note _).after (logs_throw _)
      | refused e => exact logs_throw _

theorem logs_compileRules [Text.CharNames] (pairs : List (String × String)) (cache : RegexCache) :
    Logs (compileRules pairs cache) (renamerOf pairs cache) := by
  unfold compileRules renamerOf
  cases Renamer.ofPairsIn RegexCache.compile pairs cache with
  | mk result after =>
    refine (logs_noteCache cache after).after ?_
    cases result with
    | ok rules => exact (logs_pure _).after ((logs_note _).after (logs_pure _))
    | error e => exact logs_throw _

/-- The part of a preparation that comes after the log is set up. -/
def planUnder [Text.CharNames] (r : Request) (s : Settings) : Action Plan := do
  let options := Options.ofRequest r s
  check .option options.check
  let (pattern, cache) ← compileQuery r.query .empty
  let renamer ← compileRules (s.rulePairs ++ r.rename) cache
  let mode := r.modeOrSummary
  bind [("query", .string r.query), ("mode", .string mode.kind.text)]
  return ⟨mode, r.input, options, pattern, renamer⟩

theorem prepare_eq [Text.CharNames] (l : Settings.Loader) (r : Request) (env : Settings.Environment) :
    prepare l r env = (do
      note (.starting r.query)
      let settings ← loadSettings l r env
      configure (settledSetup r settings)
      planUnder r settings) := rfl

theorem logs_planUnder [Text.CharNames] (r : Request) (s : Settings) : Logs (planUnder r s) (planOf r s) := by
  refine (logs_check _ _).bind fun _ _ => (logs_compileQuery _ _).bind fun compiled _ => ?_
  refine (logs_compileRules _ _).bind fun renamer _ => ?_
  exact (logs_bind _).after (logs_pure _)

theorem reads_openInput (path : String) (stdin : List UInt8) : Reads (openInput path stdin) (contentOf path stdin) := by
  unfold openInput contentOf
  split
  · exact (logs_pure stdin).reads
  · refine reads_get fun t => ?_
    exact (logs_check _ _).before fun content => (logs_note _).after (logs_pure content)

theorem passOf_snd (p : Plan) (content : List UInt8) : (passOf p content).2 = countsOf p content := by
  rw [passOf, countsOf]
  dsimp only
  cases hlimits : Aggregator.limits p.options.mode p.options.workers p.options.chunkSize with
  | error e => rfl
  | ok =>
    cases itemsOf p content with
    | error e => rfl
    | ok items =>
      dsimp only
      rw [Aggregator.pass_snd, Aggregator.countIn_eq, hlimits]
      change _ = ((p.aggregator.count (Profile.samples items)).mapError Failure.sample >>= fun counts =>
        pure (items, counts))
      cases p.aggregator.count (Profile.samples items) <;> rfl

theorem logs_passOver (p : Plan) (content : List UInt8) : Logs (passOver p content) (countsOf p content) := by
  rw [← passOf_snd]
  refine (logs_note _).after ?_
  cases passOf p content with
  | mk reports result =>
    refine (logs_forEach fun _ => logs_note _).after ((logs_measure _).after ?_)
    cases result with
    | error e => exact logs_throw _
    | ok counted => exact (logs_pure _).after ((logs_measure _).after ((logs_note _).after (logs_pure _)))

theorem logs_report (p : Plan) (counts : Counts) : Logs (report p counts) (reportOf p counts) := by
  unfold report
  refine (logs_check _ _).bind fun built _ => ?_
  cases built.notice? p.options with
  | none => exact logs_check _ _
  | some notice => exact (logs_note _).after (logs_check _ _)

theorem reads_execute (p : Plan) (stdin : List UInt8) : Reads (execute p stdin) (outputOf p stdin) := by
  refine (reads_openInput _ _).bind fun content => (logs_passOver _ _).reads.bind fun counted => ?_
  refine (logs_report _ _).reads.bind fun text => ?_
  have hend (registry : Metrics.Registry) : Logs (do
      note (.metrics registry)
      note (.complete counted.2 (Profile.skippedLines counted.1).length)
      return text ++ "\n") (.ok (text ++ "\n")) :=
    (logs_note _).after ((logs_note _).after (logs_pure _))
  exact (logs_getMetrics hend).reads

/-- The trace after the log is set up. -/
def Trace.configured (t : Trace) (setup : Log.Setup) : Trace :=
  let (_, journal, files) := t.journal.configure setup t.files
  { t with journal, files }

/-- The files after the log is set up do not depend on what was logged before. -/
theorem files_configured (t : Trace) (setup : Log.Setup) : (t.configured setup).files = filesUnder setup t.files := by
  change (t.journal.configure setup t.files).2.2 = filesUnder setup t.files
  rw [Log.Journal.configure, filesUnder]
  cases setup.file with
  | none => rfl
  | some path =>
    dsimp only
    rcases t.files.create path with ⟨e | ⟨⟩, tree⟩
    · cases e <;> rfl
    · rfl

/-- To set up the log is to give what comes of it, and to leave the log set up. -/
theorem perform_configure (setup : Log.Setup) (t : Trace) :
    perform (configure setup) t = (logged setup t.files, t.configured setup) := by
  have hresult : (t.journal.configure setup t.files).1.mapError .log = logged setup t.files := by
    rw [Log.Journal.configure, logged]
    cases setup.file with
    | none => rfl
    | some path =>
      rw [Option.map_some]
      dsimp only
      rcases t.files.create path with ⟨e | ⟨⟩, tree⟩
      · cases e <;> rfl
      · rfl
  have hperform : perform (configure setup) t =
      perform (check .log (t.journal.configure setup t.files).1) (t.configured setup) := rfl
  rw [hperform, ← hresult]
  cases (t.journal.configure setup t.files).1 <;> rfl

/-- What a preparation does before the log is set up. -/
def opening (l : Settings.Loader) (r : Request) (env : Settings.Environment) : Action Settings := do
  note (.starting r.query)
  loadSettings l r env

theorem reads_opening (l : Settings.Loader) (r : Request) (env : Settings.Environment) :
    Reads (opening l r env) fun files => (settingsOf l r env files).mapError .settings :=
  (logs_note _).readsAfter (reads_loadSettings l r env)

theorem prepare_eq_opening [Text.CharNames] (l : Settings.Loader) (r : Request) (env : Settings.Environment) :
    prepare l r env = opening l r env >>= fun s => configure (settledSetup r s) >>= fun _ => planUnder r s := by
  rw [prepare_eq, opening, bind_assoc]

section
variable [Text.CharNames] {l : Settings.Loader} {r : Request} {env : Settings.Environment} {s : Settings} {e : Failure}
  {t t' : Trace}

theorem perform_prepare_of_unopened (h : perform (opening l r env) t = (.error e, t')) :
    perform (prepare l r env) t = (.error e, t') := by
  rw [prepare_eq_opening]
  exact perform_bind_of_error h _

theorem perform_prepare_of_unlogged (h : perform (opening l r env) t = (.ok s, t'))
    (hlogged : logged (settledSetup r s) t'.files = .error e) :
    perform (prepare l r env) t = (.error e, t'.configured (settledSetup r s)) := by
  rw [prepare_eq_opening, perform_bind_of_ok h]
  exact perform_bind_of_error ((perform_configure _ _).trans (by rw [hlogged])) _

theorem perform_prepare_of_logged (h : perform (opening l r env) t = (.ok s, t'))
    (hlogged : logged (settledSetup r s) t'.files = .ok ()) :
    perform (prepare l r env) t = perform (planUnder r s) (t'.configured (settledSetup r s)) := by
  rw [prepare_eq_opening, perform_bind_of_ok h]
  exact perform_bind_of_ok ((perform_configure _ _).trans (by rw [hlogged])) _

end

/-- The plan of a request over files. -/
def preparedOf [Text.CharNames] (l : Settings.Loader) (r : Request) (env : Settings.Environment) (files : Tree) :
    Except Failure Plan := do
  let settings ← (settingsOf l r env files).mapError .settings
  logged (settledSetup r settings) files
  planOf r settings

/-- A preparation gives the plan of the request, and leaves the log set up. -/
theorem prepare_spec [Text.CharNames] (l : Settings.Loader) (r : Request) (env : Settings.Environment) (t : Trace) :
    (perform (prepare l r env) t).1 = preparedOf l r env t.files ∧
      ∀ s, settingsOf l r env t.files = .ok s →
        (perform (prepare l r env) t).2.files = filesUnder (settledSetup r s) t.files := by
  obtain ⟨hvalue, hfiles⟩ := reads_opening l r env t
  obtain ⟨result, t', hopening⟩ : ∃ result t', perform (opening l r env) t = (result, t') := ⟨_, _, rfl⟩
  rw [hopening] at hvalue hfiles
  dsimp only at hvalue hfiles
  rw [preparedOf]
  cases hs : settingsOf l r env t.files with
  | error cause =>
    rw [hs] at hvalue
    obtain rfl : result = .error (.settings cause) := hvalue
    rw [perform_prepare_of_unopened hopening]
    exact ⟨rfl, fun s h => by cases h⟩
  | ok s =>
    rw [hs] at hvalue
    obtain rfl : result = .ok s := hvalue
    have hleft : (t'.configured (settledSetup r s)).files = filesUnder (settledSetup r s) t.files :=
      (files_configured t' _).trans (congrArg _ hfiles)
    rw [← hfiles] at hleft ⊢
    have hsame {files : Tree} (h : files = filesUnder (settledSetup r s) t'.files) :
        ∀ s', Except.ok (ε := Settings.LoadError) s = .ok s' → files = filesUnder (settledSetup r s') t'.files := by
      rintro _ ⟨⟩
      exact h
    cases hlogged : logged (settledSetup r s) t'.files with
    | error e =>
      rw [perform_prepare_of_unlogged hopening hlogged]
      exact ⟨(bind_eq_error_iff.mpr (.inr ⟨s, rfl, bind_eq_error_iff.mpr (.inl hlogged)⟩)).symm, hsame hleft⟩
    | ok =>
      obtain ⟨hplan, hkept⟩ := (logs_planUnder r s).reads (t'.configured (settledSetup r s))
      rw [perform_prepare_of_logged hopening hlogged]
      refine ⟨hplan.trans ?_, hsame (hkept.trans hleft)⟩
      change planOf r s = logged (settledSetup r s) t'.files >>= fun _ => planOf r s
      rw [hlogged]
      rfl

/-- What a request writes to the standard output, or why it fails. -/
def resultOf [Text.CharNames] (l : Settings.Loader) (r : Request) (env : Settings.Environment) (files : Tree)
    (stdin : List UInt8) : Except Failure String := do
  let settings ← (settingsOf l r env files).mapError .settings
  logged (settledSetup r settings) files
  let plan ← planOf r settings
  outputOf plan stdin (filesUnder (settledSetup r settings) files)

theorem resultOf_eq [Text.CharNames] {l : Settings.Loader} {r : Request} {env : Settings.Environment} {files : Tree}
    {s : Settings} (h : settingsOf l r env files = .ok s) (stdin : List UInt8) :
    resultOf l r env files stdin = logged (settledSetup r s) files >>= fun _ =>
      planOf r s >>= fun plan => outputOf plan stdin (filesUnder (settledSetup r s) files) := by
  rw [resultOf, h]
  rfl

theorem perform_run [Text.CharNames] (l : Settings.Loader) (r : Request) (env : Settings.Environment)
    (stdin : List UInt8) (t : Trace) :
    (perform (prepare l r env >>= fun plan => execute plan stdin) t).1 = resultOf l r env t.files stdin := by
  obtain ⟨hplan, hfiles⟩ := prepare_spec l r env t
  rw [perform_bind]
  cases hp : perform (prepare l r env) t with
  | mk result t' =>
    rw [hp] at hplan hfiles
    change result = _ at hplan
    cases hs : settingsOf l r env t.files with
    | error e =>
      rw [preparedOf, hs] at hplan
      cases hplan
      rw [resultOf, hs]
      rfl
    | ok s =>
      have hprepared : result = logged (settledSetup r s) t.files >>= fun _ => planOf r s := by
        rw [hplan, preparedOf, hs]
        rfl
      rw [resultOf_eq hs, ← bind_assoc, ← hprepared, ← hfiles s hs]
      cases result with
      | error e => rfl
      | ok plan => exact (reads_execute plan stdin t').1

/-- How a run ends with a result. -/
def Outcome.of : Except Failure String → Outcome
  | .ok stdout => .ended successExit stdout ""
  | .error failure =>
    match failure.ending? with
    | none => .escaped failure
    | some e => .ended e.code "" e.stderr

section
variable [Text.CharNames] {l : Settings.Loader} {r : Request} {env : Settings.Environment} {stdin : List UInt8}
  {t t' : Trace}

theorem run_of_error {e : Failure}
    (h : perform (prepare l r env >>= fun plan => execute plan stdin) t = (.error e, t')) :
    run l r env stdin t = fail e t' := by
  rw [perform] at h
  rw [run, h]

theorem run_of_ok {stdout : String}
    (h : perform (prepare l r env >>= fun plan => execute plan stdin) t = (.ok stdout, t')) :
    run l r env stdin t = (.ended successExit stdout "", t') := by
  rw [perform] at h
  rw [run, h]

end

theorem fail_fst (e : Failure) (t : Trace) : (fail e t).1 = .of (.error e) := by
  rw [fail, Outcome.of]
  cases e.ending? <;> rfl

theorem outcome_run [Text.CharNames] (l : Settings.Loader) (r : Request) (env : Settings.Environment)
    (stdin : List UInt8) (t : Trace) :
    (run l r env stdin t).1 = .of (resultOf l r env t.files stdin) := by
  rw [← perform_run l r env stdin t]
  obtain ⟨result, t', h⟩ : ∃ result t',
      perform (prepare l r env >>= fun plan => execute plan stdin) t = (result, t') := ⟨_, _, rfl⟩
  rw [h]
  cases result with
  | ok stdout =>
    rw [run_of_ok h]
    rfl
  | error e =>
    rw [run_of_error h]
    exact fail_fst e t'

end StackQuery.Run
