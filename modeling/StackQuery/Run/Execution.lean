import StackQuery.Report.Text
import StackQuery.Run.Plan
import StackQuery.Text.Utf8

/-!
# Execution

A run makes its plan, passes over its input once, and writes one report. A run that fails writes no
report.
-/
namespace StackQuery.Run

variable [Text.CharNames]

inductive Built where
  | summary (summary : Report.Summary) (query : String)
  | histogram (view : Report.View) (frequency : Option Binary64)
  | graph (view : Report.View)
  | tree (tree : Report.CallTree) (limits : Report.TreeLimits)
  | flat (view : Report.FlatView)

namespace Built

def ofCounts (p : Plan) (counts : Counts) : Except Report.BuildError Built :=
  match p.mode.kind with
  | .summary => .ok (.summary (Report.summarize counts) p.pattern.text)
  | .histogram =>
    (Report.build counts p.options.threshold false).map (.histogram · p.options.frequency)
  | .graph => (Report.build counts p.options.threshold true).map .graph
  | .tree => .ok (.tree (.build counts (p.mode.scope == .callers)) p.treeLimits)
  | .flat => (Report.flatten counts (.float p.options.minPercent)).map .flat

/-- The notice of a report that was built; a summary is not worth one. -/
def notice? (o : Options) : Built → Option Notice
  | summary .. => none
  | histogram view _ => some (.viewBuilt view o.threshold)
  | graph view => some (.viewBuilt view o.threshold)
  | tree t _ => some (.treeBuilt t)
  | flat view => some (.flatBuilt view o.minPercent)

def text : Built → Except ArithmeticError String
  | summary s query => s.text query
  | histogram view frequency => view.histogramText (frequency.map .float)
  | graph view => .ok view.dotText
  | tree t limits => t.text limits
  | flat view => view.text

end Built

def openInput (path : String) (stdin : List UInt8) : Action (List UInt8) := do
  if path == Request.standardInput then return stdin
  let content ← check .input ((← get).files.openFile (.ofText path))
  note (.inputOpened path)
  return content

/-- What a reader makes of the content of the input. Bytes that are no text are replaced, but not in the standard
input. -/
def itemsOf (p : Plan) (content : List UInt8) : Except Utf8.Ill (List Profile.Item) := do
  let text ← if p.input == Request.standardInput then Utf8.decode content else pure (Utf8.decodeLossy content)
  return Profile.items p.options.innermostFirst (Text.lines text)

/-- A pass over the content of the input: what it reports, and the items in the input with their counts. What the
pass asks of the platform comes before the input. -/
def passOf (p : Plan) (content : List UInt8) : List Progress × Except Failure (List Profile.Item × Counts) :=
  let o := p.options
  match Aggregator.limits o.mode o.workers o.chunkSize, itemsOf p content with
  | .error e, _ => ([], .error (.limit e))
  | .ok _, .error e => ([], .error (.inputText e))
  | .ok _, .ok items =>
    let (reports, result) := p.aggregator.pass o.mode o.workers o.chunkSize items
    (reports, (result.mapError .ofCount).map fun counts => (items, counts))

def passOver (p : Plan) (content : List UInt8) : Action (List Profile.Item × Counts) := do
  let o := p.options
  let mode := o.mode
  let chunking := if mode = .parallel then some (o.workers, o.chunkSize) else none
  note (.passStarted p.pattern.text p.mode.scope chunking)
  let (reports, result) := passOf p content
  for report in reports do
    note (.ofProgress report)
  measure (·.addPass mode.text)
  let (items, counts) ← check id result
  measure (·.addSamples counts.total counts.matched)
  note (.passFinished counts)
  return (items, counts)

def report (p : Plan) (counts : Counts) : Action String := do
  let built ← check .build (Built.ofCounts p counts)
  if let some notice := built.notice? p.options then note notice
  check (fun e => .build (.arithmetic e)) built.text

/-- Carries out a plan; gives what is written to the standard output. -/
def execute (p : Plan) (stdin : List UInt8) : Action String := do
  let content ← openInput p.input stdin
  let (items, counts) ← passOver p content
  let text ← report p counts
  note (.metrics (← get).metrics)
  note (.complete counts (Profile.skippedLines items).length)
  return text ++ "\n"

inductive Outcome where
  | ended (code : Nat) (stdout stderr : String)
  | escaped (failure : Failure)
  deriving DecidableEq, Repr

def escapedExit : Nat := 1

def Outcome.exitCode : Outcome → Nat
  | ended code _ _ => code
  | escaped _ => escapedExit

def fail (failure : Failure) (t : Trace) : Outcome × Trace :=
  match failure.ending? with
  | none => (.escaped failure, t)
  | some e =>
    (.ended e.code "" e.stderr,
      { t with journal := t.journal.log (Notice.failed e.trouble).event })

def run (l : Settings.Loader) (r : Request) (env : Settings.Environment) (stdin : List UInt8) (t : Trace) :
    Outcome × Trace :=
  let action : Action String := do
    let plan ← prepare l r env
    execute plan stdin
  match (action.run t : Except Failure String × Trace) with
  | (.ok stdout, t) => (.ended successExit stdout "", t)
  | (.error failure, t) => fail failure t

def runFresh (l : Settings.Loader) (r : Request) (env : Settings.Environment) (files : Files.Tree)
    (stdin : List UInt8) : Outcome × Trace :=
  run l r env stdin (.start (firstSetup r) files)

end StackQuery.Run
