import StackQuery.Query.Basic

/-!
# Matching a pattern against a sample

A cursor runs over the frames, term by term. There is no backtracking: a skip commits to the first frame
at which its node matches. The chain of a query is tried at each frame in turn, and the first start at
which every term succeeds gives the span.
-/
namespace StackQuery

/-- The outcome for one sample: whether it matched, and the half-open range of frames that was taken. -/
structure MatchResult where
  matched : Bool
  span : Option (Int × Int)
  deriving DecidableEq, Repr

/-- The elements between two bounds. A negative bound counts from the end, and bounds beyond the list
are its ends. -/
def slice {α : Type} (xs : List α) (start stop : Option Int) : List α :=
  let bound (i : Int) : Nat :=
    if i < 0 then (i + Int.ofNat xs.length).toNat else min i.toNat xs.length
  let start := (start.map bound).getD 0
  let stop := (stop.map bound).getD xs.length
  (xs.take stop).drop start

/-- What a result without a span refuses. -/
inductive SpanError where
  | noSpan
  deriving DecidableEq, Repr

def SpanError.message : SpanError → String
  | .noSpan => "Sample did not match; there is no span"

namespace MatchResult

def unmatched : MatchResult := ⟨false, none⟩

def requireSpan (r : MatchResult) : Except SpanError (Int × Int) :=
  match r.span with
  | some span => .ok span
  | none => .error .noSpan

def start (r : MatchResult) : Except SpanError Int := r.requireSpan.map Prod.fst

def stop (r : MatchResult) : Except SpanError Int := r.requireSpan.map Prod.snd

def callers {α : Type} (r : MatchResult) (frames : List α) : Except SpanError (List α) :=
  r.start.map fun s => slice frames none (some s)

def inside {α : Type} (r : MatchResult) (frames : List α) : Except SpanError (List α) :=
  r.requireSpan.map fun (s, e) => slice frames (some s) (some e)

def callees {α : Type} (r : MatchResult) (frames : List α) : Except SpanError (List α) :=
  r.stop.map fun e => slice frames (some e) none

end MatchResult

theorem slice_take {α : Type} (xs : List α) (n : Nat) : slice xs none (some n) = xs.take n := by
  have hn : ¬ ((n : Int) < 0) := by omega
  rcases Nat.le_total n xs.length with h | h
  · simp [slice, hn, Nat.min_eq_left h]
  · simp [slice, hn, Nat.min_eq_right h, List.take_of_length_le h]

theorem slice_drop {α : Type} (xs : List α) (n : Nat) : slice xs (some n) none = xs.drop n := by
  have hn : ¬ ((n : Int) < 0) := by omega
  rcases Nat.le_total n xs.length with h | h
  · simp [slice, hn, Nat.min_eq_left h]
  · simp [slice, hn, Nat.min_eq_right h, List.drop_eq_nil_of_le h]

namespace Query

/-- The first cursor, among `count` places from `i` on, at which a match succeeds; gives the cursor after
the match. -/
def firstFrom (attempt : Nat → Option Nat) : (count i : Nat) → Option Nat
  | 0, _ => none
  | count + 1, i =>
    match attempt i with
    | some after => some after
    | none => firstFrom attempt count (i + 1)

def matchAt (frames : Sample) : Node → Nat → Option Nat
  | .leaf _ accepts, i =>
    match frames[i]? with
    | some frame => if accepts frame then some (i + 1) else none
    | none => none
  | .any, i => if i < frames.length then some (i + 1) else none
  | .seq left right, i =>
    match matchAt frames left i with
    | some after => matchAt frames right after
    | none => none
  | .skip inner, i => firstFrom (matchAt frames inner) (frames.length + 1 - i) i
  | .absent inner, i => if (matchAt frames inner i).isNone then some i else none

/-- How far the terms of a chain have come: the cursor, where the first frame was taken, and the end of
the frames taken so far. -/
structure Reach where
  cursor : Nat
  first : Option Nat
  last : Nat
  deriving DecidableEq, Repr

def Reach.start (start : Nat) : Reach := ⟨start, none, start⟩

/-- How far a chain has come after one more term. An absence leaves it where it is. -/
def advance (frames : Sample) (term : Node) (r : Reach) : Option Reach :=
  match matchAt frames term r.cursor with
  | some after => if term.isAbsent then some r else some ⟨after, some (r.first.getD r.cursor), after⟩
  | none => none

def advanceAll (frames : Sample) : List Node → Reach → Option Reach
  | [], r => some r
  | term :: rest, r =>
    match advance frames term r with
    | some r => advanceAll frames rest r
    | none => none

def spanAt (terms : List Node) (frames : Sample) (start : Nat) : Option (Nat × Nat) :=
  (advanceAll frames terms (.start start)).map fun r => (r.first.getD start, r.last)

/-- A match whose span is no range of frames. -/
structure InvalidSpan where
  pattern : String
  start : Nat
  stop : Nat
  frames : Nat
  deriving DecidableEq, Repr

def InvalidSpan.message (e : InvalidSpan) : String :=
  "Invalid matched span (" ++ toString e.start ++ ", " ++ toString e.stop ++ ") for pattern " ++
    Text.quote e.pattern ++ " over a sample of " ++ toString e.frames ++ " frames"

/-- A span that a match may have: in order, inside the sample, and not empty if frames are taken. -/
def validSpan (consumes : Bool) (length : Nat) (span : Nat × Nat) : Bool :=
  span.1 ≤ span.2 && (!consumes || span.1 != span.2) && span.2 ≤ length

def firstSpan (terms : List Node) (frames : Sample) : (count start : Nat) → Option (Nat × Nat)
  | 0, _ => none
  | count + 1, start =>
    match spanAt terms frames start with
    | some span => some span
    | none => firstSpan terms frames count (start + 1)

/-- Whether a pattern matches a sample, and where. A pattern of absences alone is checked once, against
the whole sample. -/
def evaluate (pattern : Pattern) (frames : Sample) : Except InvalidSpan MatchResult :=
  let starts := if pattern.consumes then frames.length else 1
  match firstSpan pattern.terms frames starts 0 with
  | none => .ok .unmatched
  | some span =>
    if validSpan pattern.consumes frames.length span then
      .ok ⟨true, some (Int.ofNat span.1, Int.ofNat span.2)⟩
    else .error ⟨pattern.text, span.1, span.2, frames.length⟩

end Query

end StackQuery
