import StackQuery.Aggregation.Pass
import StackQuery.Log.Record
import StackQuery.Query.Parser
import StackQuery.Report.CallTree
import StackQuery.Report.Leaves

/-!
# Notices

What happens in a run that is worth a line in its log, and the events by which the log shows it.
-/
namespace StackQuery.Run

open Log (Event Field)

/-- Why a run ended before its report, as its log tells it. -/
inductive Trouble where
  | query (error : Query.ParseError)
  | configuration (message : String)
  | fileNotFound (message : String)
  | io (message : String)
  | invariant (message : String)
  deriving DecidableEq, Repr

inductive Notice where
  | starting (query : String)
  | settingsLoading (path : String)
  | settingsLoaded
  | regexCompiled (text : String)
  | queryParsed (query : String) (terms : Nat)
  | queryRejected (query : String) (error : Query.ParseError)
  | rulesCompiled (count : Nat)
  | inputOpened (path : String)
  /-- A pass begins; one in chunks tells how many workers there are and how large chunks are. -/
  | passStarted (query : String) (scope : Scope) (chunking : Option (Int × Int))
  | blockSkipped (line : Nat)
  | chunkMerged (part : Counts)
  | passFinished (counts : Counts)
  | viewBuilt (view : Report.View) (threshold : Int)
  | treeBuilt (tree : Report.CallTree)
  | flatBuilt (view : Report.FlatView) (cutoff : Binary64)
  | metrics (registry : Metrics.Registry)
  | complete (counts : Counts) (skipped : Nat)
  | failed (trouble : Trouble)

def runLogger : String := "stack_focus.__main__"

def cacheLogger : String := "stack_focus.core.regex_cache"

def queryLogger : String := "stack_focus.core.pattern_parser"

def renameLogger : String := "stack_focus.core.rewriter"

def inputLogger : String := "stack_focus.adapters.perf_script"

def passLogger : String := "stack_focus.core.aggregator"

def reportLogger : String := "stack_focus.core.builder"

def skipReason : String := "Frame line without a sample header"

def Trouble.event : Trouble → Event
  | .query e => ⟨.error, runLogger, "pattern_parse_error",
      [("error", .text e.message), ("offset", .count e.offset)]⟩
  | .configuration message => ⟨.error, runLogger, "config_invalid", [("error", .text message)]⟩
  | .fileNotFound message => ⟨.error, runLogger, "file_not_found", [("error", .text message)]⟩
  | .io message => ⟨.error, runLogger, "run_error", [("error", .text message)]⟩
  | .invariant message => ⟨.error, runLogger, "invariant_violation", [("error", .text message)]⟩

def Notice.event : Notice → Event
  | .starting query => ⟨.info, runLogger, "run_starting",
      [("version", .text version), ("query", .text query)]⟩
  | .settingsLoading path => ⟨.info, runLogger, "config_loading", [("path", .text path)]⟩
  | .settingsLoaded => ⟨.info, runLogger, "config_loaded", []⟩
  | .regexCompiled text => ⟨.debug, cacheLogger, "regex_compiled", [("pattern", .text text)]⟩
  | .queryParsed query terms => ⟨.debug, queryLogger, "pattern_parsed",
      [("query", .text query), ("terms", .count terms)]⟩
  | .queryRejected query e => ⟨.debug, queryLogger, "pattern_parse_error",
      [("query", .text query), ("error", .text e.message), ("offset", .count e.offset)]⟩
  | .rulesCompiled count => ⟨.debug, renameLogger, "rename_rules_compiled", [("count", .count count)]⟩
  | .inputOpened path => ⟨.debug, inputLogger, "input_opened", [("path", .text path)]⟩
  | .passStarted query scope chunking => ⟨.info, passLogger, "aggregation_started",
      [("query", .text query), ("scope", .text scope.text)] ++
        match chunking with
        | some (workers, size) => [("workers", .int workers), ("chunk_size", .int size)]
        | none => []⟩
  | .blockSkipped line => ⟨.warning, inputLogger, "input_block_skipped",
      [("reason", .text skipReason), ("line_number", .count line)]⟩
  | .chunkMerged part => ⟨.debug, passLogger, "shard_complete",
      [("samples", .int part.total), ("matched", .int part.matched)]⟩
  | .passFinished counts => ⟨.info, passLogger, "aggregation_complete",
      [("total", .int counts.total), ("matched", .int counts.matched),
        ("functions", .count counts.functions.size), ("edges", .count counts.edges.size)]⟩
  | .viewBuilt view threshold => ⟨.debug, reportLogger, "report_built",
      [("nodes", .count view.rows.length), ("edges", .count view.arcs.length),
        ("total", .int view.total), ("top_n", .int threshold)]⟩
  | .treeBuilt tree => ⟨.debug, reportLogger, "report_built",
      [("kind", .text "tree"), ("nodes", .count tree.root.children.length),
        ("total", .int tree.total), ("inverted", .value (.bool tree.inverted))]⟩
  | .flatBuilt view cutoff => ⟨.debug, reportLogger, "report_built",
      [("kind", .text "flat"), ("nodes", .count view.rows.length), ("no_leaf", .int view.exhausted),
        ("total", .int view.total), ("min_percent", .value (.number (.float cutoff)))]⟩
  | .metrics registry => ⟨.debug, runLogger, "metrics_snapshot", [("metrics", .metrics registry)]⟩
  | .complete counts skipped => ⟨.info, runLogger, "run_complete",
      [("total", .int counts.total), ("matched", .int counts.matched),
        ("skipped_blocks", .count skipped)]⟩
  | .failed trouble => trouble.event

def Notice.ofProgress : Progress → Notice
  | .skipped line => .blockSkipped line
  | .merged part => .chunkMerged part

end StackQuery.Run
