import StackQuery.Metrics.Series

/-!
# The metrics of a run

A run counts the samples that it processed and that matched, and how often its regex cache helped. Each
pass over samples is one observation of a duration, labelled by how it was carried out; only the number
of observations is kept.
-/
namespace StackQuery.Metrics

inductive RunCounter where
  | samplesProcessed
  | samplesMatched
  | cacheHits
  | cacheMisses
  deriving DecidableEq, Repr

structure Registry where
  samplesProcessed : Counter
  samplesMatched : Counter
  cacheHits : Counter
  cacheMisses : Counter
  passes : Tally String

namespace Registry

def empty : Registry := ⟨.empty, .empty, .empty, .empty, .empty⟩

def counter (r : Registry) : RunCounter → Counter
  | .samplesProcessed => r.samplesProcessed
  | .samplesMatched => r.samplesMatched
  | .cacheHits => r.cacheHits
  | .cacheMisses => r.cacheMisses

def setCounter (r : Registry) (c : Counter) : RunCounter → Registry
  | .samplesProcessed => { r with samplesProcessed := c }
  | .samplesMatched => { r with samplesMatched := c }
  | .cacheHits => { r with cacheHits := c }
  | .cacheMisses => { r with cacheMisses := c }

def increase (r : Registry) (which : RunCounter) (amount : Number) :
    Except SeriesError Unit × Registry :=
  let (result, c) := (r.counter which).increase amount []
  (result, r.setCounter c which)

def read (r : Registry) (which : RunCounter) : Number := (r.counter which).read []

def increaseTimes (r : Registry) (which : RunCounter) : Nat → Registry
  | 0 => r
  | n + 1 => (r.increaseTimes which n |>.increase which (.int 1)).2

def addPass (r : Registry) (mode : String) : Registry :=
  { r with passes := r.passes.add (labelText [("mode", mode)]) 1 }

def addSamples (r : Registry) (processed matched : Int) : Registry :=
  ((r.increase .samplesProcessed (.int processed)).2.increase .samplesMatched (.int matched)).2

end Registry

end StackQuery.Metrics
