import StackQuery.Proofs.Number.Order
import StackQuery.Proofs.Run.Rejection

/-!
# Options that reach the input

A run opens its input when it has a plan, and its options are in their ranges then, but for a frequency that is no
number: a request may give one, since only frequencies up to zero are looked for. In every other case the run ends
as a rejected one, whatever its input is, unless it ended before: settings may escape, and so may a log file that
nobody asks the system for.
-/
namespace StackQuery

namespace Run

open Files (Tree)

/-- Options in the ranges that are asked for. -/
structure Options.Proper (o : Options) : Prop where
  threshold : 1 ≤ o.threshold
  workers : 1 ≤ o.workers
  maxDepth : ∀ depth ∈ o.maxDepth, 1 ≤ depth
  minPercent : Report.isPercentage (.float o.minPercent) = true
  frequency : ∀ hertz ∈ o.frequency, (Number.int 0).lt (.float hertz) = true

def Options.withoutFrequency (o : Options) : Options := { o with frequency := none }

/-- The check of options passes what it should, and a frequency that is no number. -/
theorem Options.inRange_iff_proper {o : Options} :
    o.InRange ↔ o.Proper ∨ o.frequency = some .nan ∧ o.withoutFrequency.Proper := by
  have hpositive (hertz : Binary64) :
      (Number.float hertz).le (.int 0) = false ↔ hertz = .nan ∨ (Number.int 0).lt (.float hertz) = true := by
    rw [Number.le_eq_false_iff, Number.float.injEq]
    simp
  constructor
  · intro h
    by_cases hnan : o.frequency = some .nan
    · exact .inr ⟨hnan, h.threshold, h.workers, h.maxDepth, h.minPercent, nofun⟩
    · refine .inl ⟨h.threshold, h.workers, h.maxDepth, h.minPercent, fun hertz hhertz => ?_⟩
      refine ((hpositive hertz).mp (h.frequency hertz hhertz)).resolve_left ?_
      rintro rfl
      exact hnan hhertz
  · rintro (h | ⟨hnan, h⟩)
    · exact ⟨h.threshold, h.workers, h.maxDepth, h.minPercent,
        fun hertz hhertz => (hpositive hertz).mpr (.inr (h.frequency hertz hhertz))⟩
    · refine ⟨h.threshold, h.workers, h.maxDepth, h.minPercent, fun hertz hhertz => (hpositive hertz).mpr (.inl ?_)⟩
      exact (Option.some.inj (hnan.symm.trans hhertz)).symm

variable {l : Settings.Loader} {r : Request} {env : Settings.Environment}

/-- A frequency that is no number comes from the request, since settings have none. -/
theorem frequency_of_request {s : Settings} (hs : s.InRange) (h : (Options.ofRequest r s).frequency = some .nan) :
    r.frequency = some .nan := by
  change (r.frequency <|> s.report.frequency) = some .nan at h
  cases hr : r.frequency with
  | some hertz => rwa [hr] at h
  | none =>
    rw [hr] at h
    have hpositive := hs.frequency _ h
    rw [Number.lt_nan] at hpositive
    cases hpositive

theorem run_of_unprepared [Text.CharNames] {t t' : Trace} {e : Failure}
    (h : perform (prepare l r env) t = (.error e, t')) (input : String) (stdin : List UInt8) :
    run l { r with input } env stdin t = fail e t' := by
  refine run_of_prepare_error ?_ stdin
  rw [prepare_input]
  exact perform_bind_of_error h _

/-- A run comes to a plan with options. To open the input is the first step of carrying out a plan. -/
def OpensInput [Text.CharNames] (l : Settings.Loader) (r : Request) (env : Settings.Environment) (t : Trace)
    (o : Options) : Prop :=
  ∃ plan t', perform (prepare l r env) t = (.ok plan, t') ∧ plan.options = o

/-- A run ends in one way, whatever its input and the standard input hold. -/
def EndsAnyInput [Text.CharNames] (l : Settings.Loader) (r : Request) (env : Settings.Environment) (t : Trace)
    (outcome : Outcome) : Prop :=
  ∃ t', ∀ input stdin, run l { r with input } env stdin t = (outcome, t')

/-- How a run ends that is rejected with a message. -/
def Outcome.rejected (message : String) : Outcome := .ended configurationExit "" (Ending.errorLine message)

theorem endsAnyInput_of_error [Text.CharNames] {t : Trace} {e : Failure} (h : preparedOf l r env t.files = .error e) :
    EndsAnyInput l r env t (.of (.error e)) := by
  have hprepared : perform (prepare l r env) t = (.error e, (perform (prepare l r env) t).2) :=
    Prod.ext ((prepare_spec l r env t).1.trans h) rfl
  refine ⟨(fail e (perform (prepare l r env) t).2).2, fun input stdin => ?_⟩
  rw [run_of_unprepared hprepared]
  exact Prod.ext (fail_fst e _) rfl

theorem proper_of_opensInput [Text.CharNames] (hl : l.Bounded) {t : Trace} {o : Options} (h : OpensInput l r env t o) :
    (∃ s, settingsOf l r env t.files = .ok s ∧ logged (settledSetup r s) t.files = .ok () ∧ o = .ofRequest r s) ∧
      (o.Proper ∨ r.frequency = some .nan ∧ o.withoutFrequency.Proper) := by
  obtain ⟨plan, t', hplan, rfl⟩ := h
  have hprepared := (prepare_spec l r env t).1
  rw [hplan] at hprepared
  obtain ⟨s, hs, hprepared⟩ := bind_eq_ok_iff.mp hprepared.symm
  obtain ⟨⟨⟩, hlogged, hp⟩ := bind_eq_ok_iff.mp hprepared
  have hs := mapError_eq_ok_iff.mp hs
  obtain ⟨-, hoptions, hrange⟩ := planOf_eq_ok hp
  refine ⟨⟨s, hs, hlogged, hoptions⟩, (Options.inRange_iff_proper.mp hrange).imp_right fun h => ⟨?_, h.2⟩⟩
  have hnan := h.1
  rw [hoptions] at hnan
  exact frequency_of_request (inRange_of_settingsOf hl hs) hnan

/-- Options that are not proper are rejected once settings are loaded and the log is set up. -/
theorem rejects_of_not_proper [Text.CharNames] (hl : l.Bounded) {t : Trace} {s : Settings}
    (hs : settingsOf l r env t.files = .ok s) (hlogged : logged (settledSetup r s) t.files = .ok ())
    (hproper : ¬ (Options.ofRequest r s).Proper)
    (hnan : ¬ (r.frequency = some .nan ∧ (Options.ofRequest r s).withoutFrequency.Proper)) :
    ∃ e : OptionError, (Options.ofRequest r s).check = .error e ∧ EndsAnyInput l r env t (.rejected e.message) := by
  have hcheck : (Options.ofRequest r s).check ≠ .ok () := by
    rw [ne_eq, Options.check_eq_ok_iff, Options.inRange_iff_proper]
    rintro (h | ⟨hfrequency, h⟩)
    · exact hproper h
    · exact hnan ⟨frequency_of_request (inRange_of_settingsOf hl hs) hfrequency, h⟩
  cases he : (Options.ofRequest r s).check with
  | ok => exact absurd he hcheck
  | error e =>
    refine ⟨e, rfl, endsAnyInput_of_error (e := .option e) ?_⟩
    have hplan : planOf r s = .error (.option e) := by
      rw [planOf]
      dsimp only
      rw [he]
      rfl
    rw [preparedOf, hs, ← hplan]
    change (logged (settledSetup r s) t.files >>= fun _ => planOf r s) = _
    rw [hlogged]
    rfl

/-- Where the log is not set up, or no settings are loaded, a run ends without a plan. -/
theorem endsAnyInput_of_unsettled [Text.CharNames] {t : Trace} {e : Failure}
    (h : (∃ cause, settingsOf l r env t.files = .error cause ∧ e = .settings cause) ∨
      ∃ s, settingsOf l r env t.files = .ok s ∧ logged (settledSetup r s) t.files = .error e) :
    (∀ o, ¬ OpensInput l r env t o) ∧ EndsAnyInput l r env t (.of (.error e)) := by
  have hprepared : preparedOf l r env t.files = .error e := by
    rw [preparedOf]
    obtain ⟨cause, hs, rfl⟩ | ⟨s, hs, hlogged⟩ := h
    · rw [hs]
      rfl
    · refine bind_eq_error_iff.mpr (.inr ⟨s, mapError_eq_ok_iff.mpr hs, ?_⟩)
      exact bind_eq_error_iff.mpr (.inl hlogged)
  refine ⟨fun o hopens => ?_, endsAnyInput_of_error hprepared⟩
  obtain ⟨plan, t', hplan, -⟩ := hopens
  have hspec := (prepare_spec l r env t).1
  rw [hplan, hprepared] at hspec
  cases hspec

theorem rejected_of_settingsFault {e : Settings.LoadError} (h : e.isSettingsFault = true) :
    Outcome.of (.error (.settings e)) = .rejected e.message := by
  have hending : (Failure.settings e).ending? = some (.configuration e.message) := if_pos h
  rw [Outcome.of, hending]
  rfl

/-- A run opens its input only if its options are proper, or but for a frequency that is no number and that the
request gives. If settings are loaded, the log is set up and the options are not so, the run is rejected, with every
input alike. If no settings are loaded, or if the log cannot be set up, the run ends without opening its input, with
every input alike, and as a rejected one if the settings are at fault. -/
theorem input_opened_in_range [Text.CharNames] {l : Settings.Loader} (hl : l.Bounded) (r : Request)
    (env : Settings.Environment) (t : Trace) :
    (∀ o, OpensInput l r env t o →
      (∃ s, settingsOf l r env t.files = .ok s ∧ logged (settledSetup r s) t.files = .ok () ∧ o = .ofRequest r s) ∧
        (o.Proper ∨ r.frequency = some .nan ∧ o.withoutFrequency.Proper)) ∧
    (∀ s, settingsOf l r env t.files = .ok s → logged (settledSetup r s) t.files = .ok () →
      ¬ (Options.ofRequest r s).Proper →
      ¬ (r.frequency = some .nan ∧ (Options.ofRequest r s).withoutFrequency.Proper) →
        ∃ e : OptionError, (Options.ofRequest r s).check = .error e ∧
          EndsAnyInput l r env t (.rejected e.message)) ∧
    (∀ e, settingsOf l r env t.files = .error e →
      (∀ o, ¬ OpensInput l r env t o) ∧ EndsAnyInput l r env t (.of (.error (.settings e))) ∧
        (e.isSettingsFault = true → EndsAnyInput l r env t (.rejected e.message))) ∧
    ∀ s e, settingsOf l r env t.files = .ok s → logged (settledSetup r s) t.files = .error e →
      (∀ o, ¬ OpensInput l r env t o) ∧ EndsAnyInput l r env t (.escaped e) := by
  refine ⟨fun _ h => proper_of_opensInput hl h, fun _ hs hlogged hproper hnan =>
    rejects_of_not_proper hl hs hlogged hproper hnan, fun e hs => ?_, fun s e hs hlogged => ?_⟩
  · obtain ⟨hopens, hends⟩ := endsAnyInput_of_unsettled (.inl ⟨e, hs, rfl⟩)
    exact ⟨hopens, hends, fun hfault => rejected_of_settingsFault hfault ▸ hends⟩
  · obtain ⟨cause, rfl⟩ := logged_eq_error hlogged
    exact endsAnyInput_of_unsettled (.inr ⟨s, hs, hlogged⟩)

/-- A frequency that is no number gets through; a percentage that is none does not, nor does a threshold of zero in
the environment. -/
theorem input_opened_in_range_nan :
    let l := Settings.Loader.standard
    let asked : Request := { Request.ofQuery "\x7ba\x7d" with frequency := some .nan }
    let refused : Request := { Request.ofQuery "\x7ba\x7d" with minPercent := some .nan }
    let plain : Request := Request.ofQuery "\x7ba\x7d"
    let env : Settings.Environment := [("stack_focus_threshold", "0")]
    (∃ o, OpensInput l asked [] (.start (firstSetup asked) .empty) o ∧ ¬ o.Proper ∧ asked.frequency = some .nan ∧
      o.withoutFrequency.Proper) ∧
    EndsAnyInput l refused [] (.start (firstSetup refused) .empty)
      (.rejected "--min-percent must be between 0 and 100, got nan") ∧
    (∀ o, ¬ OpensInput l plain env (.start (firstSetup plain) .empty) o) ∧
    EndsAnyInput l plain env (.start (firstSetup plain) .empty) (.rejected "Invalid configuration: 1 issues") := by
  intro l asked refused plain env
  have hl : l.Bounded := Settings.Loader.bounded_standard
  refine ⟨?_, ?_, ?_⟩
  · have hprepared : (perform (prepare l asked []) (.start (firstSetup asked) .empty)).1.isOk = true := by
      decide +kernel
    cases hp : perform (prepare l asked []) (.start (firstSetup asked) .empty) with
    | mk result t' =>
      cases result with
      | error e =>
        rw [hp] at hprepared
        cases hprepared
      | ok plan =>
        have hopens : OpensInput l asked [] (.start (firstSetup asked) .empty) plan.options := ⟨plan, t', hp, rfl⟩
        obtain ⟨⟨s, hs, -, hoptions⟩, hproper⟩ := (input_opened_in_range hl asked [] _).1 _ hopens
        have hnot : ¬ plan.options.Proper := by
          intro h
          have hpositive := h.frequency .nan (by rw [hoptions]; rfl)
          rw [Number.lt_nan] at hpositive
          cases hpositive
        exact ⟨plan.options, hopens, hnot, hproper.resolve_left hnot⟩
  · have hs : settingsOf l refused [] .empty = .ok .default := rfl
    have hnot : Report.isPercentage (.float .nan) = false := by decide
    obtain ⟨e, he, hrejects⟩ := (input_opened_in_range hl refused [] (.start (firstSetup refused) .empty)).2.1 _ hs rfl
      (fun h => by cases hnot.symm.trans h.minPercent) (fun h => by cases h.1)
    have hcheck : (Options.ofRequest refused .default).check = .error (.minPercent .nan) := by decide +kernel
    cases Except.error.inj (hcheck.symm.trans he)
    exact hrejects
  · have hinvalid : settingsOf l plain env .empty = .error (.invalid none [⟨[.member "threshold"], .atLeast 1⟩]) := by
      decide +kernel
    obtain ⟨hopens, -, hrejects⟩ :=
      (input_opened_in_range hl plain env (.start (firstSetup plain) .empty)).2.2.1 _ hinvalid
    exact ⟨hopens, hrejects rfl⟩

end Run

end StackQuery
