import StackQuery.Log.Journal
import StackQuery.Regex.Cache
import StackQuery.Run.Failure

/-!
# Traces

What a run leaves behind beside its report: the journal, the metrics, and the files that it created.
-/
namespace StackQuery.Run

/-- What a run has left behind so far. -/
structure Trace where
  journal : Log.Journal
  metrics : Metrics.Registry
  files : Files.Tree

def Trace.start (setup : Log.Setup) (files : Files.Tree) : Trace := ⟨.start setup, .empty, files⟩

/-- A part of a run: it adds to the trace, and fails or gives a value. -/
abbrev Action := ExceptT Failure (StateM Trace)

def note (n : Notice) : Action Unit :=
  modify fun t => { t with journal := t.journal.log n.event }

def measure (change : Metrics.Registry → Metrics.Registry) : Action Unit :=
  modify fun t => { t with metrics := change t.metrics }

def check {ε α : Type} (failure : ε → Failure) (result : Except ε α) : Action α :=
  match result with
  | .ok x => pure x
  | .error e => throw (failure e)

def configure (setup : Log.Setup) : Action Unit := do
  let t ← get
  let (result, journal, files) := t.journal.configure setup t.files
  set { t with journal, files }
  check .log result

def bind (values : List (String × Json)) : Action Unit :=
  modify fun t => { t with journal := t.journal.bind values }

/-- Takes notice of what a cache learned and of how often it helped. -/
def noteCache (earlier later : RegexCache) : Action Unit := do
  for text in RegexCache.added earlier later do
    note (.regexCompiled text)
  measure fun m =>
    (m.increaseTimes .cacheHits (later.hits - earlier.hits)).increaseTimes .cacheMisses
      (later.misses - earlier.misses)

theorem check_ok {ε α : Type} (failure : ε → Failure) (x : α) :
    check failure (.ok x : Except ε α) = pure x := rfl

end StackQuery.Run
