import StackQuery.Query.Basic
import StackQuery.Text.Blank
import StackQuery.Text.Lines

/-!
# Reading profiles

A profile is text in blocks. A block is a header line and the indented frame lines after it, innermost
frame first; it ends at a blank line, at the next header, or with the text. Lines that begin with a
number sign are comments. Frame lines without a header are skipped up to the next blank line or header
and reported once; a header without frames is no sample.
-/
namespace StackQuery.Profile

def unknownFrame : Frame := "[unknown]"

/-- The frame of a frame line: the words between the address and the first word that opens a
parenthesis. -/
def frameOf (line : List Char) : Frame :=
  match ((Text.words line).drop 1).takeWhile (·.head? != some '(') with
  | [] => unknownFrame
  | words => String.ofList ([' '].intercalate words)

inductive Line where
  | comment
  | blank
  | header
  | frame (name : Frame)
  deriving DecidableEq, Repr

def dropLineEnds (raw : List Char) : List Char :=
  (raw.reverse.dropWhile fun c => c = '\r' || c = '\n').reverse

def Line.of (raw : List Char) : Line :=
  let line := dropLineEnds raw
  if line.head? = some '#' then .comment
  else if line.all Text.isBlank then .blank
  else if (line.head?.map Text.isBlank).getD false then .frame (frameOf line)
  else .header

inductive Place where
  | outside
  | orphaned
  | block (frames : List Frame)
  deriving DecidableEq, Repr

inductive Item where
  | sample (frames : Sample)
  /-- The number of a line where frames without a header begin. -/
  | skipped (line : Nat)
  deriving DecidableEq, Repr

/-- The sample of the block that ends. Frames come in call order, or innermost first. -/
def Place.flush (innermostFirst : Bool) : Place → List Item
  | .block [] => []
  | .block frames => [.sample (if innermostFirst then frames.reverse else frames)]
  | _ => []

/-- Reads a line: what comes out, and where reading stands after it. -/
def Place.step (innermostFirst : Bool) (number : Nat) (place : Place) : Line → List Item × Place
  | .comment => ([], place)
  | .blank => (place.flush innermostFirst, .outside)
  | .header => (place.flush innermostFirst, .block [])
  | .frame name =>
    match place with
    | .outside => ([.skipped number], .orphaned)
    | .orphaned => ([], .orphaned)
    | .block frames => ([], .block (name :: frames))

def itemsFrom (innermostFirst : Bool) : (number : Nat) → Place → List (List Char) → List Item
  | _, place, [] => place.flush innermostFirst
  | number, place, line :: rest =>
    let (items, place) := place.step innermostFirst number (Line.of line)
    items ++ itemsFrom innermostFirst (number + 1) place rest

def items (innermostFirst : Bool) (lines : List (List Char)) : List Item :=
  itemsFrom innermostFirst 1 .outside lines

def Item.sample? : Item → Option Sample
  | .sample frames => some frames
  | .skipped _ => none

def Item.skipped? : Item → Option Nat
  | .sample _ => none
  | .skipped line => some line

def samples (items : List Item) : List Sample := items.filterMap Item.sample?

def skippedLines (items : List Item) : List Nat := items.filterMap Item.skipped?

theorem itemsFrom_comment {innermostFirst : Bool} {number : Nat} {place : Place}
    {line : List Char} {rest : List (List Char)} (h : Line.of line = .comment) :
    itemsFrom innermostFirst number place (line :: rest) =
      itemsFrom innermostFirst (number + 1) place rest := by
  simp [itemsFrom, h, Place.step]

end StackQuery.Profile
