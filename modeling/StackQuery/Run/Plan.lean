import StackQuery.Report.Text
import StackQuery.Run.Trace

/-!
# Plans

A plan is what a request comes to under its settings: everything that a run needs beside its input.
Making a plan reads the settings and compiles the query and the rename rules; the input is not touched.
-/
namespace StackQuery.Run

variable [Text.CharNames]

/-- What a run does with its input. -/
structure Plan where
  mode : Mode
  /-- The path of the input, or a dash for the standard input. -/
  input : String
  options : Options
  pattern : Query.Pattern
  renamer : Renamer

namespace Plan

def aggregator (p : Plan) : Aggregator where
  pattern := p.pattern
  renamer := p.renamer
  scope := p.mode.scope
  keepStacks := p.mode.needsStacks
  innermostFirst := p.options.innermostFirst

def treeLimits (p : Plan) : Report.TreeLimits := ⟨p.options.maxDepth, .float p.options.minPercent⟩

end Plan

def firstSetup (r : Request) : Log.Setup :=
  ⟨if r.debug then .debug else .warning, r.format.getD .console, none⟩

def settledSetup (r : Request) (s : Settings) : Log.Setup :=
  ⟨if r.debug then .debug else s.logging.level, r.format.getD s.logging.format,
    if s.logging.file.enabled then some s.logging.file.path else none⟩

def loadSettings (l : Settings.Loader) (r : Request) (env : Settings.Environment) : Action Settings := do
  match r.config with
  | none => check .settings (l.ofEnvironment env)
  | some path =>
    note (.settingsLoading path.text)
    let settings ← check .settings (l.load (← get).files env path)
    note .settingsLoaded
    return settings

def compileQuery (query : String) (cache : RegexCache) : Action (Query.Pattern × RegexCache) := do
  let (result, after) := Query.parseIn RegexCache.accepts query cache
  noteCache cache after
  match result with
  | .ok pattern =>
    note (.queryParsed query pattern.terms.length)
    return (pattern, after)
  | .error (.rejected e) =>
    note (.queryRejected query e)
    throw (.query e)
  | .error (.refused e) => throw (.regex e)

def compileRules (pairs : List (String × String)) (cache : RegexCache) : Action Renamer := do
  let (result, after) := Renamer.ofPairsIn RegexCache.compile pairs cache
  noteCache cache after
  let rules ← check .rule result
  note (.rulesCompiled rules.length)
  return ⟨rules⟩

def prepare (l : Settings.Loader) (r : Request) (env : Settings.Environment) : Action Plan := do
  note (.starting r.query)
  let settings ← loadSettings l r env
  configure (settledSetup r settings)
  let options := Options.ofRequest r settings
  check .option options.check
  let (pattern, cache) ← compileQuery r.query .empty
  let renamer ← compileRules (settings.rulePairs ++ r.rename) cache
  let mode := r.modeOrSummary
  bind [("query", .string r.query), ("mode", .string mode.kind.text)]
  return ⟨mode, r.input, options, pattern, renamer⟩

end StackQuery.Run
