import StackQuery.Counts.Basic
import StackQuery.Query.Match
import StackQuery.Rename.Renamer

/-!
# Counting a stream of samples

Each sample is renamed, matched, and adds to the counts. Every sample adds to the total; which frames
feed the functions, edges and stacks depends on the scope. Samples may be read innermost frame first;
they are matched in that order, and what they feed is put back into call order.
-/
namespace StackQuery

/-- Which samples, and which of their frames, feed the counts. -/
inductive Scope where
  | all
  | matched
  /-- Matched samples, the frames up to the end of the span. -/
  | callers
  /-- Matched samples, the frames from the start of the span on. -/
  | callees
  deriving DecidableEq, Repr

def Scope.text : Scope → String
  | .all => "all"
  | .matched => "matched"
  | .callers => "callers"
  | .callees => "callees"

structure UnknownScope where
  word : String
  deriving DecidableEq, Repr

def UnknownScope.message (e : UnknownScope) : String :=
  Text.quote e.word ++ " is not a valid AggregationScope"

def Scope.ofText (word : String) : Except UnknownScope Scope :=
  match [Scope.all, .matched, .callers, .callees].find? (·.text == word) with
  | some scope => .ok scope
  | none => .error ⟨word⟩

/-- What a sample adds beside itself: whether and where it matched, and the frames it feeds, in call
order. -/
structure Contribution where
  result : MatchResult
  fed : Option (List Frame)
  deriving DecidableEq, Repr

inductive SampleError where
  | rename (error : Regex.TemplateError)
  | span (error : Query.InvalidSpan)
  deriving DecidableEq, Repr

/-- Adds a contribution. A sample that feeds no frames is still a stack. -/
def Counts.record (counts : Counts) (keepStacks : Bool) (c : Contribution) : Counts :=
  let counts := { counts with
    total := counts.total + 1
    matched := if c.result.matched then counts.matched + 1 else counts.matched }
  match c.fed with
  | none => counts
  | some fed =>
    let counts := if fed.isEmpty then counts else counts.addFrames fed
    if keepStacks then counts.addStack fed else counts

structure Aggregator where
  pattern : Query.Pattern
  renamer : Renamer
  scope : Scope
  keepStacks : Bool
  innermostFirst : Bool

namespace Aggregator

def select (a : Aggregator) (frames : List Frame) (result : MatchResult) : Option (List Frame) :=
  match a.scope with
  | .all => some frames
  | scope =>
    match result.matched, result.span with
    | true, some (start, stop) =>
      let untilEnd := slice frames none (some stop)
      let fromStart := slice frames (some start) none
      match scope with
      | .callers => some (if a.innermostFirst then fromStart else untilEnd)
      | .callees => some (if a.innermostFirst then untilEnd else fromStart)
      | _ => some frames
    | _, _ => none

def contribution (a : Aggregator) (frames : List Frame) : Except Query.InvalidSpan Contribution :=
  (Query.evaluate a.pattern frames).map fun result =>
    ⟨result, (a.select frames result).map fun fed => if a.innermostFirst then fed.reverse else fed⟩

/-- Counts one sample; a sample that fails adds nothing. New names are remembered from sample to
sample. -/
def process (a : Aggregator) (sample : Sample) (memo : Renamer.Memo) (counts : Counts) :
    Except SampleError MatchResult × Renamer.Memo × Counts :=
  match a.renamer.renameAllIn sample memo with
  | (.error e, memo) => (.error (.rename e), memo, counts)
  | (.ok frames, memo) =>
    match a.contribution frames with
    | .error e => (.error (.span e), memo, counts)
    | .ok c => (.ok c.result, memo, counts.record a.keepStacks c)

/-- The counts after samples; the first sample that fails ends it. -/
def countFrom (a : Aggregator) : List Sample → Renamer.Memo → Counts → Except SampleError Counts
  | [], _, counts => .ok counts
  | sample :: rest, memo, counts =>
    match a.process sample memo counts with
    | (.ok _, memo, counts) => a.countFrom rest memo counts
    | (.error e, _, _) => .error e

def count (a : Aggregator) (samples : List Sample) : Except SampleError Counts :=
  a.countFrom samples .empty .zero

end Aggregator

end StackQuery
