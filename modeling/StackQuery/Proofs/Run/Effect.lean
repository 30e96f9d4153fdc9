import Mathlib.Tactic.Choose
import StackQuery.Run.Trace

/-!
# What actions give and change

Most actions of a run only log and measure: what they give is fixed, and so is how they add to the journal and to
the metrics, whatever the files. Others look at the files as well. Both kinds are closed under doing one thing
after the other, so that a run is said without its trace by saying what each of its parts gives.
-/
namespace StackQuery.Run

open Files (Tree)

variable {α β ε : Type}

/-- What comes of an action from a trace on. -/
def perform (x : Action α) (t : Trace) : Except Failure α × Trace := x.run t

theorem perform_bind (x : Action α) (f : α → Action β) (t : Trace) :
    perform (x >>= f) t =
      match perform x t with
      | (.ok v, t') => perform (f v) t'
      | (.error e, t') => (.error e, t') := by
  change (let (result, t') := x.run t; ExceptT.bindCont f result t') = _
  rw [perform]
  cases x.run t with
  | mk result t' => cases result <;> rfl

theorem perform_bind_of_ok {x : Action α} {v : α} {t t' : Trace} (h : perform x t = (.ok v, t')) (f : α → Action β) :
    perform (x >>= f) t = perform (f v) t' := by
  rw [perform_bind, h]

theorem perform_bind_of_error {x : Action α} {e : Failure} {t t' : Trace} (h : perform x t = (.error e, t'))
    (f : α → Action β) : perform (x >>= f) t = (.error e, t') := by
  rw [perform_bind, h]

abbrev Records : Type := Log.Journal × Metrics.Registry

def Trace.withRecords (t : Trace) (records : Records) : Trace := ⟨records.1, records.2, t.files⟩

def Trace.withFiles (t : Trace) (files : Tree) : Trace := { t with files }

/-- An action gives a result of its own and changes the records, whatever the files. -/
def Logs (x : Action α) (result : Except Failure α) : Prop :=
  ∃ change : Records → Records, ∀ t, perform x t = (result, t.withRecords (change (t.journal, t.metrics)))

theorem logs_pure (v : α) : Logs (pure v) (.ok v) := ⟨id, fun _ => rfl⟩

theorem logs_throw (e : Failure) : Logs (throw e : Action α) (.error e) := ⟨id, fun _ => rfl⟩

theorem logs_note (n : Notice) : Logs (note n) (.ok ()) :=
  ⟨fun records => (records.1.log n.event, records.2), fun _ => rfl⟩

theorem logs_measure (change : Metrics.Registry → Metrics.Registry) : Logs (measure change) (.ok ()) :=
  ⟨fun records => (records.1, change records.2), fun _ => rfl⟩

theorem logs_bind (values : List (String × Json)) : Logs (bind values) (.ok ()) :=
  ⟨fun records => (records.1.bind values, records.2), fun _ => rfl⟩

theorem logs_check (fault : ε → Failure) (result : Except ε α) : Logs (check fault result) (result.mapError fault) := by
  cases result with
  | ok v => exact logs_pure v
  | error e => exact logs_throw (fault e)

theorem logs_getMetrics {k : Metrics.Registry → Action β} {result : Except Failure β}
    (h : ∀ registry, Logs (k registry) result) : Logs (get >>= fun t => k t.metrics) result := by
  choose change hchange using h
  refine ⟨fun records => change records.2 records, fun t => ?_⟩
  rw [perform_bind]
  exact hchange t.metrics t

theorem Logs.bind {x : Action α} {k : α → Action β} {result : Except Failure α} {next : α → Except Failure β}
    (hx : Logs x result) (hk : ∀ v, result = .ok v → Logs (k v) (next v)) : Logs (x >>= k) (result >>= next) := by
  obtain ⟨change, hchange⟩ := hx
  cases result with
  | error e =>
    refine ⟨change, fun t => ?_⟩
    rw [perform_bind, hchange]
    rfl
  | ok v =>
    obtain ⟨further, hfurther⟩ := hk v rfl
    refine ⟨fun records => further (change records), fun t => ?_⟩
    rw [perform_bind, hchange]
    exact hfurther _

/-- What comes before is of no consequence for the result if it gives a value. -/
theorem Logs.after {x : Action α} {k : α → Action β} {v : α} {result : Except Failure β} (hx : Logs x (.ok v))
    (hk : Logs (k v) result) : Logs (x >>= k) result :=
  hx.bind fun _ hv => Except.ok.inj hv ▸ hk

/-- What comes after is of no consequence for the result if it hands the value on. -/
theorem Logs.before {x : Action α} {k : α → Action α} {result : Except Failure α} (hx : Logs x result)
    (hk : ∀ v, Logs (k v) (.ok v)) : Logs (x >>= k) result :=
  bind_pure result ▸ hx.bind fun v _ => hk v

theorem logs_forEach {xs : List β} {f : β → Action PUnit} (h : ∀ x, Logs (f x) (.ok ())) :
    Logs (forIn xs PUnit.unit fun x _ => do f x; pure (.yield PUnit.unit)) (.ok ()) := by
  induction xs with
  | nil => exact logs_pure _
  | cons x rest ih =>
    have hstep : Logs (do f x; pure (ForInStep.yield PUnit.unit)) (.ok (.yield PUnit.unit)) :=
      (h x).after (logs_pure _)
    rw [List.forIn_cons]
    exact hstep.after ih

/-- The files make no difference to an action that only logs, and it does not change them. -/
theorem Logs.withFiles {x : Action α} {result : Except Failure α} (h : Logs x result) (t : Trace) (files : Tree) :
    perform x (t.withFiles files) = ((perform x t).1, (perform x t).2.withFiles files) := by
  obtain ⟨change, hchange⟩ := h
  rw [hchange, hchange]
  rfl

/-- An action gives what is made of the files, and leaves the files as they are. -/
def Reads (x : Action α) (made : Tree → Except Failure α) : Prop :=
  ∀ t, (perform x t).1 = made t.files ∧ (perform x t).2.files = t.files

theorem Logs.reads {x : Action α} {result : Except Failure α} (h : Logs x result) : Reads x fun _ => result := by
  obtain ⟨change, hchange⟩ := h
  intro t
  rw [hchange]
  exact ⟨rfl, rfl⟩

theorem Reads.bind {x : Action α} {k : α → Action β} {made : Tree → Except Failure α}
    {next : α → Tree → Except Failure β} (hx : Reads x made) (hk : ∀ v, Reads (k v) (next v)) :
    Reads (x >>= k) fun files => made files >>= fun v => next v files := by
  intro t
  obtain ⟨hvalue, hfiles⟩ := hx t
  rw [perform_bind]
  cases hp : perform x t with
  | mk result t' =>
    rw [hp] at hvalue hfiles
    dsimp only at hvalue hfiles ⊢
    rw [← hvalue]
    cases result with
    | error e => exact ⟨rfl, hfiles⟩
    | ok v =>
      obtain ⟨hnext, hleft⟩ := hk v t'
      rw [hfiles] at hnext hleft
      exact ⟨hnext, hleft⟩

/-- What only logs before is of no consequence for what is made of the files. -/
theorem Logs.readsAfter {x : Action α} {k : α → Action β} {v : α} {made : Tree → Except Failure β}
    (hx : Logs x (.ok v)) (hk : Reads (k v) made) : Reads (x >>= k) made := by
  obtain ⟨change, hchange⟩ := hx
  intro t
  rw [perform_bind, hchange]
  exact hk _

theorem reads_get {k : Trace → Action β} {made : Tree → Except Failure β}
    (h : ∀ t, Logs (k t) (made t.files)) : Reads (get >>= k) made := by
  intro t
  rw [perform_bind]
  exact (h t).reads t

end StackQuery.Run
