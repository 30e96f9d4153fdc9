import StackQuery.Regex.Matcher

/-!
# Regexes

A regex is compiled once and then searched for in many names. A search takes the leftmost place where
the program succeeds; replacing takes one match after the other, and directly after an empty match the
next one at the same place has to take something.
-/
namespace StackQuery

variable [Text.CharNames]

structure Regex where
  text : String
  groups : Nat
  names : List (String × Nat)
  program : Regex.Program

namespace Regex

def compile (text : String) : Except CompileError Regex := do
  let parsed ← parse text.toList
  match itemsProgram parsed.flags parsed.items with
  | .ok program => return ⟨text, parsed.groups, parsed.names, program⟩
  | .error fault => throw (.ill ⟨fault, none⟩)

/-- A part of a subject that a regex takes, with its groups. -/
structure Match where
  start : Nat
  stop : Nat
  captures : Captures

/-- The match that starts at a place, which may be required to take something. -/
def matchAt (regex : Regex) (subject : Array Char) (i : Nat) (nonEmpty : Bool) : Option Match :=
  let accept := fun j captures => if nonEmpty && j == i then none else some (j, captures)
  (regex.program.run subject i (Captures.unset regex.groups) accept).map fun (j, captures) =>
    ⟨i, j, captures⟩

/-- The first match at one of the next `count` places. Only a match at the first of them may be required
to take something. -/
def searchFrom (regex : Regex) (subject : Array Char) : (count i : Nat) → (nonEmpty : Bool) → Option Match
  | 0, _, _ => none
  | count + 1, i, nonEmpty =>
    match regex.matchAt subject i nonEmpty with
    | some found => some found
    | none => searchFrom regex subject count (i + 1) false

def search? (regex : Regex) (subject : Array Char) (i : Nat) (nonEmpty : Bool) : Option Match :=
  regex.searchFrom subject (subject.size + 1 - i) i nonEmpty

def found (regex : Regex) (name : String) : Bool :=
  (regex.search? name.toList.toArray 0 false).isSome

/-- The characters of a group; none if the group is not set. -/
def Match.group (m : Match) (subject : Array Char) (group : Nat) : List Char :=
  let span := if group == 0 then some (m.start, m.stop) else m.captures.span? group
  match span with
  | some (start, stop) => (subject.extract start stop).toList
  | none => []

/-- The subject from a place on, with every match replaced. The first argument bounds the number of
matches. -/
def replaceFrom (regex : Regex) (subject : Array Char) (expand : Match → List Char) :
    (fuel i : Nat) → (nonEmpty : Bool) → List Char
  | 0, i, _ => (subject.extract i subject.size).toList
  | fuel + 1, i, nonEmpty =>
    match regex.search? subject i nonEmpty with
    | none => (subject.extract i subject.size).toList
    | some m =>
      (subject.extract i m.start).toList ++
        (expand m ++ replaceFrom regex subject expand fuel m.stop (m.start == m.stop))

def replaceAll (regex : Regex) (expand : Array Char → Match → List Char) (name : String) : String :=
  let subject := name.toList.toArray
  String.ofList (regex.replaceFrom subject (expand subject) (2 * subject.size + 3) 0 false)

end Regex

end StackQuery
