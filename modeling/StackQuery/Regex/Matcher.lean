import StackQuery.Regex.Program

/-!
# Running a program

Programs are run by backtracking. A step is given what is to follow it and gives the first way, in the
order the regex prefers, in which both succeed. What a step has captured is undone when it is left.
Loops are bounded: a round that is not required and takes nothing is the last one, so their number is at
most the required rounds and the characters that are left.
-/
namespace StackQuery.Regex

/-- The start and the end of every group, where they were set. -/
abbrev Captures := Array (Option Nat × Option Nat)

/-- Where a run ended, and what it captured. -/
abbrev Outcome := Nat × Captures

/-- A step of a run: from a place and captures, given what follows, to the first way to the end. -/
abbrev Step := Nat → Captures → (Nat → Captures → Option Outcome) → Option Outcome

namespace Captures

def unset (groups : Nat) : Captures := Array.replicate (groups + 1) (none, none)

def openAt (captures : Captures) (group place : Nat) : Captures :=
  captures.modify group fun pair => (some place, pair.2)

def closeAt (captures : Captures) (group place : Nat) : Captures :=
  captures.modify group fun pair => (pair.1, some place)

def span? (captures : Captures) (group : Nat) : Option (Nat × Nat) :=
  match captures[group]? with
  | some (some start, some stop) => if start ≤ stop then some (start, stop) else none
  | _ => none

end Captures

def wordAt (subject : Array Char) (unicode : Bool) (i : Nat) : Bool :=
  match subject[i]? with
  | some c => Category.word.contains unicode c.toNat
  | none => false

def lineFeedAt (subject : Array Char) (i : Nat) : Bool := subject[i]? == some '\n'

/-- A place holds at a position. In an empty subject there is neither a boundary nor its contrary. -/
def Place.holds (subject : Array Char) (i : Nat) : Place → Bool
  | .textStart => i == 0
  | .lineStart => i == 0 || lineFeedAt subject (i - 1)
  | .textEnd => i == subject.size
  | .lastLineEnd => i == subject.size || (i + 1 == subject.size && lineFeedAt subject i)
  | .lineEnd => i == subject.size || lineFeedAt subject i
  | .boundary unicode negated =>
    let before := 0 < i && wordAt subject unicode (i - 1)
    subject.size != 0 && ((before != wordAt subject unicode i) != negated)

/-- The `count` characters from `i` and from `j` are the same once folded. -/
def sameRun (subject : Array Char) (fold : Fold) (i j : Nat) : Nat → Bool
  | 0 => true
  | count + 1 =>
    match subject[i]?, subject[j]? with
    | some a, some b =>
      fold.apply a.toNat == fold.apply b.toNat && sameRun subject fold (i + 1) (j + 1) count
    | _, _ => false

/-- Rounds of a loop, and what follows them. `last` is the place where the latest round that was not
required began. -/
def rounds (step : Step) (reluctant : Bool) (least : Nat) (greatest : Option Nat) :
    (fuel count : Nat) → (last : Option Nat) → Step
  | 0, _, _, _, _, _ => none
  | fuel + 1, count, last, i, captures, k =>
    if count < least then
      step i captures (rounds step reluctant least greatest fuel (count + 1) last · · k)
    else
      let more := fun (_ : Unit) =>
        if greatest.all (count < ·) && last != some i then
          step i captures (rounds step reluctant least greatest fuel (count + 1) (some i) · · k)
        else none
      if reluctant then
        match k i captures with
        | some found => some found
        | none => more ()
      else
        match more () with
        | some found => some found
        | none => k i captures

/-- As many rounds of a loop as there are, each taken in its first way. -/
def allRounds (step : Step) (least : Nat) (greatest : Option Nat) :
    (fuel count : Nat) → Nat → Captures → Option Outcome
  | 0, _, i, captures => some (i, captures)
  | fuel + 1, count, i, captures =>
    if count < least then
      match step i captures (fun j c => some (j, c)) with
      | some (j, c) => allRounds step least greatest fuel (count + 1) j c
      | none => none
    else if greatest.all (count < ·) then
      match step i captures (fun j c => some (j, c)) with
      | some (j, c) =>
        if j == i then some (j, c) else allRounds step least greatest fuel (count + 1) j c
      | none => some (i, captures)
    else some (i, captures)

/-- The first way to run a program on a subject and then what follows. -/
def Program.run (subject : Array Char) : Program → Step
  | .empty, i, captures, k => k i captures
  | .one test, i, captures, k =>
    match subject[i]? with
    | some c => if test.accepts c.toNat then k (i + 1) captures else none
    | none => none
  | .seq first second, i, captures, k =>
    first.run subject i captures fun j c => second.run subject j c k
  | .choice first second, i, captures, k =>
    match first.run subject i captures k with
    | some found => some found
    | none => second.run subject i captures k
  | .never, _, _, _ => none
  | .capture group body, i, captures, k =>
    body.run subject i (captures.openAt group i) fun j c => k j (c.closeAt group j)
  | .loop greed least greatest body, i, captures, k =>
    let fuel := least + (subject.size - i) + 3
    match greed with
    | .possessive =>
      match allRounds (body.run subject) least greatest fuel 0 i captures with
      | some (j, c) => k j c
      | none => none
    | .reluctant => rounds (body.run subject) true least greatest fuel 0 none i captures k
    | .greedy => rounds (body.run subject) false least greatest fuel 0 none i captures k
  | .at place, i, captures, k => if place.holds subject i then k i captures else none
  | .look behind negated body, i, captures, k =>
    let back := behind.getD 0
    let found :=
      if i < back then none else body.run subject (i - back) captures fun j c => some (j, c)
    match found, negated with
    | some (_, c), false => k i c
    | some _, true => none
    | none, false => none
    | none, true => k i captures
  | .atomic body, i, captures, k =>
    match body.run subject i captures fun j c => some (j, c) with
    | some (j, c) => k j c
    | none => none
  | .backref fold group, i, captures, k =>
    match captures.span? group with
    | some (start, stop) =>
      if sameRun subject fold start i (stop - start) then k (i + (stop - start)) captures else none
    | none => none
  | .conditional group yes no, i, captures, k =>
    if (captures.span? group).isSome then yes.run subject i captures k
    else no.run subject i captures k

end StackQuery.Regex
