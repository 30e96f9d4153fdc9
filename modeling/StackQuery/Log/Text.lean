import StackQuery.Json.Printer
import StackQuery.Log.Record

/-!
# Log lines as text

A record in JSON is an object of its fields. On a console it is the level, the event and the other
fields. Lines carry no time.
-/
namespace StackQuery.Log

def metricsJson (r : Metrics.Registry) : Json :=
  let counter (which : Metrics.RunCounter) : Json := .number (r.read which)
  let passes := r.passes.entries.map fun e =>
    (e.1, Json.object [("count", .number (.int e.2))])
  .object [
    ("samples", .object [("processed", counter .samplesProcessed), ("matched", counter .samplesMatched)]),
    ("regex_cache", .object [("hits", counter .cacheHits), ("misses", counter .cacheMisses)]),
    ("aggregation", .object [("duration_stats", .object passes)])]

def Field.json : Field → Json
  | .value x => x
  | .metrics r => metricsJson r

def headNames : List String := ["level", "event"]

def Record.text (r : Record) : String :=
  let fields := r.fields.entries.map fun e => (e.1, e.2.json)
  match r.format with
  | .json => (Json.object fields).print
  | .console =>
    let others := fields.filter fun e => !headNames.contains e.1
    " ".intercalate (r.level.label :: r.event :: others.map fun e => e.1 ++ "=" ++ e.2.print)

def Line.text : Line → String
  | .plain text => text
  | .event e format context => (e.record format context).text

end StackQuery.Log
