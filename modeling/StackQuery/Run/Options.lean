import StackQuery.Aggregation.Parallel
import StackQuery.Report.Leaves
import StackQuery.Run.Request

/-!
# Options of a run

The options are those of the settings, replaced by what the request gives. They are checked as a whole,
in a fixed order, whichever side they came from.
-/
namespace StackQuery.Run

/-- How a run counts and what its report shows. -/
structure Options where
  threshold : Int
  workers : Int
  chunkSize : Int
  innermostFirst : Bool
  maxDepth : Option Int
  minPercent : Binary64
  frequency : Option Binary64
  deriving DecidableEq, Repr

inductive OptionError where
  | threshold (given : Int)
  | workers (given : Int)
  | maxDepth (given : Int)
  | minPercent (given : Binary64)
  | frequency (given : Binary64)
  deriving DecidableEq, Repr

def OptionError.message : OptionError → String
  | .threshold given => "--threshold must be a positive integer, got " ++ toString given
  | .workers given => "--workers must be a positive integer, got " ++ toString given
  | .maxDepth given => "--max-depth must be a positive integer, got " ++ toString given
  | .minPercent given => "--min-percent must be between 0 and 100, got " ++ given.toShortest
  | .frequency given => "--frequency must be positive, got " ++ given.toShortest

namespace Options

def ofRequest (r : Request) (s : Settings) : Options where
  threshold := r.threshold.getD s.threshold
  workers := r.workers.getD s.runtime.workers
  chunkSize := s.runtime.chunkSize
  innermostFirst := r.innermostFirst || s.innermostFirst
  maxDepth := r.maxDepth <|> s.report.maxDepth
  minPercent := r.minPercent.getD s.report.minPercent
  frequency := r.frequency <|> s.report.frequency

/-- Finds the first option out of its range. A frequency that is no number is not positive, and not
found. -/
def check (o : Options) : Except OptionError Unit := do
  if o.threshold < 1 then throw (.threshold o.threshold)
  if o.workers < 1 then throw (.workers o.workers)
  if let some depth := o.maxDepth then
    if depth < 1 then throw (.maxDepth depth)
  if !Report.isPercentage (.float o.minPercent) then throw (.minPercent o.minPercent)
  if let some frequency := o.frequency then
    if (Number.float frequency).le (.int 0) then throw (.frequency frequency)

def mode (o : Options) : Aggregator.Mode := if 1 < o.workers then .parallel else .serial

end Options

end StackQuery.Run
