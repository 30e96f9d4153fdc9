import StackQuery.Query.Basic
import StackQuery.Text.Blank

/-!
# The outline of a query

The characters of a query are read by an automaton. What it has read are terms whose regexes are still
plain text; where it stops early there is a fault and the column it is about. The outline does not depend
on which texts are regexes.
-/
namespace StackQuery.Query

/-- An atom as it is written. A regex keeps the column of its opening brace. -/
inductive RawAtom where
  | any
  | leaf (text : List Char) (brace : Nat)
  deriving DecidableEq, Repr

structure RawTerm where
  negated : Bool
  skipped : Bool
  atom : RawAtom
  deriving DecidableEq, Repr

/-- A mark that a term has to follow. -/
inductive Mark where
  | dots
  | comma
  | bang
  deriving DecidableEq, Repr

def Mark.toChars : Mark → List Char
  | .dots => ['.', '.']
  | .comma => [',']
  | .bang => ['!']

/-- Why a text is not a query, whatever its regexes. -/
inductive Fault where
  | empty
  | missingTerm (mark : Mark)
  | atomAfterDots
  | unclosedBrace
  | strayBrace
  | parenthesis
  | expectedSeparator
  | expectedAtom
  deriving DecidableEq, Repr

def Fault.message : Fault → String
  | .empty => "Empty query"
  | .missingTerm mark => "Expected a term after '" ++ String.ofList mark.toChars ++ "'"
  | .atomAfterDots => "Expected '\x7b' or '.' after infix '..'"
  | .unclosedBrace => "Unmatched '\x7b'"
  | .strayBrace => "Unmatched '\x7d'"
  | .parenthesis => "Nested groups are not supported"
  | .expectedSeparator => "Expected ',' or '..'"
  | .expectedAtom => "Expected '\x7b' or '.'"

/-- How many characters from the column on a fault is about; all of them if absent. -/
def Fault.extent? : Fault → Option Nat
  | .empty => some 0
  | .missingTerm mark => some mark.toChars.length
  | .atomAfterDots => some 2
  | .unclosedBrace => none
  | .strayBrace | .parenthesis | .expectedSeparator | .expectedAtom => some 1

/-- What the automaton is to read next. -/
inductive Expecting where
  /-- A term, at the start or after the comma at a column. -/
  | term (comma : Option Nat)
  /-- What follows one dot at a column where a term begins. -/
  | termDot (negated : Bool) (dot : Nat)
  /-- A skip or an atom after the exclamation mark at a column. -/
  | negation (bang : Nat)
  /-- An atom after the dots at a column that open a term. -/
  | leadingDots (negated : Bool) (dots : Nat)
  /-- An atom after the dots at a column that join two terms. -/
  | joiningDots (dots : Nat)
  /-- What follows one dot at a column after joining dots. -/
  | joinedDot (dot : Nat)
  | separator
  /-- The second of the dots that may join two terms. -/
  | separatorDot (dot : Nat)
  /-- The rest of a regex after its brace: inside a number of braces, and perhaps after a backslash. The
  characters read so far are latest first. -/
  | regex (negated skipped : Bool) (brace depth : Nat) (escaped : Bool) (read : List Char)
  deriving DecidableEq, Repr

abbrev Located := Fault × Nat

/-- The term that a character ends, if any, and what is expected after it. -/
abbrev Step := Option RawTerm × Except Located Expecting

/-- The terms of a text, and the fault that ends them early. -/
abbrev Outline := List RawTerm × Option Located

def unexpected (c : Char) (otherwise : Fault) : Fault :=
  if c == '\x7d' then .strayBrace
  else if c == '(' || c == ')' then .parenthesis
  else otherwise

namespace Expecting

def opening (negated skipped : Bool) (column : Nat) : Expecting :=
  .regex negated skipped column 0 false []

def go (next : Expecting) : Step := (none, .ok next)

def stop (fault : Fault) (column : Nat) : Step := (none, .error (fault, column))

def stepSeparator (n : Nat) (c : Char) : Except Located Expecting :=
  if Text.isBlank c then .ok .separator
  else if c == ',' then .ok (.term (some n))
  else if c == '.' then .ok (.separatorDot n)
  else .error (unexpected c .expectedSeparator, n)

def stepRegex (negated skipped : Bool) (brace depth : Nat) (escaped : Bool) (read : List Char)
    (c : Char) : Step :=
  if escaped then go (.regex negated skipped brace depth false (c :: read))
  else if c == '\\' then go (.regex negated skipped brace depth true (c :: read))
  else if c == '\x7b' then go (.regex negated skipped brace (depth + 1) false (c :: read))
  else if c == '\x7d' then
    match depth with
    | 0 => (some ⟨negated, skipped, .leaf read.reverse brace⟩, .ok .separator)
    | depth + 1 => go (.regex negated skipped brace depth false (c :: read))
  else go (.regex negated skipped brace depth false (c :: read))

def step (state : Expecting) (n : Nat) (c : Char) : Step :=
  match state with
  | .term comma =>
    if Text.isBlank c then go (.term comma)
    else if c == '!' then go (.negation n)
    else if c == '\x7b' then go (opening false false n)
    else if c == '.' then go (.termDot false n)
    else stop (unexpected c .expectedAtom) n
  | .termDot negated dot =>
    if c == '.' then go (.leadingDots negated dot)
    else (some ⟨negated, false, .any⟩, stepSeparator n c)
  | .negation bang =>
    if Text.isBlank c then go (.negation bang)
    else if c == '\x7b' then go (opening true false n)
    else if c == '.' then go (.termDot true n)
    else stop (.missingTerm .bang) bang
  | .leadingDots negated dots =>
    if Text.isBlank c then go (.leadingDots negated dots)
    else if c == '\x7b' then go (opening negated true n)
    else if c == '.' then (some ⟨negated, true, .any⟩, .ok .separator)
    else stop (unexpected c .expectedAtom) n
  | .joiningDots dots =>
    if Text.isBlank c then go (.joiningDots dots)
    else if c == '!' then stop .atomAfterDots n
    else if c == '\x7b' then go (opening false true n)
    else if c == '.' then go (.joinedDot n)
    else stop (unexpected c .expectedAtom) n
  | .joinedDot dot =>
    if c == '.' then stop .atomAfterDots dot
    else (some ⟨false, true, .any⟩, stepSeparator n c)
  | .separator => (none, stepSeparator n c)
  | .separatorDot dot =>
    if c == '.' then go (.joiningDots dot) else stop .expectedSeparator dot
  | .regex negated skipped brace depth escaped read =>
    stepRegex negated skipped brace depth escaped read c

def finish : Expecting → Outline
  | .term none => ([], some (.empty, 0))
  | .term (some comma) => ([], some (.missingTerm .comma, comma))
  | .termDot negated _ => ([⟨negated, false, .any⟩], none)
  | .negation bang => ([], some (.missingTerm .bang, bang))
  | .leadingDots _ dots => ([], some (.missingTerm .dots, dots))
  | .joiningDots dots => ([], some (.missingTerm .dots, dots))
  | .joinedDot _ => ([⟨false, true, .any⟩], none)
  | .separator => ([], none)
  | .separatorDot dot => ([], some (.expectedSeparator, dot))
  | .regex _ _ brace _ _ _ => ([], some (.unclosedBrace, brace))

def read : Expecting → (column : Nat) → List Char → Outline
  | state, _, [] => state.finish
  | state, n, c :: rest =>
    match state.step n c with
    | (ended, .error fault) => (ended.toList, some fault)
    | (ended, .ok next) =>
      let tail := read next (n + 1) rest
      (ended.toList ++ tail.1, tail.2)

end Expecting

def outline (text : List Char) : Outline := Expecting.read (.term none) 0 text

theorem read_cons {state next : Expecting} {ended : Option RawTerm} {n : Nat} {c : Char}
    {rest : List Char} (h : state.step n c = (ended, .ok next)) :
    state.read n (c :: rest) =
      (ended.toList ++ (next.read (n + 1) rest).1, (next.read (n + 1) rest).2) := by
  simp only [Expecting.read, h]

end StackQuery.Query
