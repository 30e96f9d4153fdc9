import StackQuery.Regex.Fault

/-!
# Items of a regex

A regex is read into a list of items, each of which stands for one step of a match. `width` bounds the
number of characters an item can take, which decides whether it may stand behind the place it looks at.
-/
namespace StackQuery.Regex

/-- A switch that changes how a regex is read or matched. -/
inductive Flag where
  | ignoreCase
  | locale
  | multiline
  | dotAll
  | verbose
  | ascii
  | template
  | unicode
  deriving DecidableEq, Repr

abbrev FlagSet := List Flag

namespace Flag

def ofLetter? : Char → Option Flag
  | 'i' => some .ignoreCase
  | 'L' => some .locale
  | 'm' => some .multiline
  | 's' => some .dotAll
  | 'x' => some .verbose
  | 'a' => some .ascii
  | 't' => some .template
  | 'u' => some .unicode
  | _ => none

/-- The flags that choose the kind of character class; at most one of them is in force. -/
def isClassKind : Flag → Bool
  | .ascii | .locale | .unicode => true
  | _ => false

def isGlobal : Flag → Bool
  | .template => true
  | _ => false

end Flag

/-- The flags in force inside a group that turns some on and some off. A class kind that is turned on
replaces the one in force. -/
def FlagSet.combine (flags on off : FlagSet) : FlagSet :=
  let kept := if on.any Flag.isClassKind then flags.filter (!·.isClassKind) else flags
  (kept ++ on).filter (!off.contains ·)

inductive Category where
  | digit
  | blank
  | word
  deriving DecidableEq, Repr

inductive SetMember where
  | code (c : Nat)
  | range (lower upper : Nat)
  | category (category : Category) (negated : Bool)
  deriving DecidableEq, Repr

/-- A place in the subject that takes no characters. -/
inductive Anchor where
  | lineStart
  | lineEnd
  | textStart
  | textEnd
  | boundary
  | nonBoundary
  deriving DecidableEq, Repr

/-- The order in which a loop tries its numbers of rounds. A possessive loop tries only the first. -/
inductive Greed where
  | greedy
  | reluctant
  | possessive
  deriving DecidableEq, Repr

/-- One step of a regex. A backreference keeps the width of its group. -/
inductive Item where
  | literal (c : Nat)
  | notLiteral (c : Nat)
  | anyChar
  | set (negated : Bool) (members : List SetMember)
  | anchor (anchor : Anchor)
  | backref (group least greatest : Nat)
  | branch (alternatives : List (List Item))
  | group (number : Option Nat) (on off : FlagSet) (body : List Item)
  | atomic (body : List Item)
  | loop (greed : Greed) (least : Nat) (greatest : Option Nat) (body : List Item)
  | look (behind negated : Bool) (body : List Item)
  | conditional (group : Nat) (yes no : List Item)

/-- The greatest width; wider items count as this wide. -/
def widthLimit : Nat := Nat.pow 2 64

def addWidth (x y : Nat × Nat) : Nat × Nat :=
  (min (x.1 + y.1) widthLimit, min (x.2 + y.2) widthLimit)

def loopWidth (least : Nat) (greatest : Option Nat) (body : Nat × Nat) : Nat × Nat :=
  let upper := match greatest with
    | some n => body.2 * n
    | none => if body.2 == 0 then 0 else widthLimit
  (min (body.1 * least) widthLimit, min upper widthLimit)

mutual

def Item.width : Item → Nat × Nat
  | .literal _ => (1, 1)
  | .notLiteral _ => (1, 1)
  | .anyChar => (1, 1)
  | .set _ _ => (1, 1)
  | .anchor _ => (0, 0)
  | .backref _ least greatest => (least, greatest)
  | .branch alternatives => branchWidth alternatives
  | .group _ _ _ body => itemsWidth body
  | .atomic body => itemsWidth body
  | .loop _ least greatest body => loopWidth least greatest (itemsWidth body)
  | .look _ _ _ => (0, 0)
  | .conditional _ yes no =>
    let a := itemsWidth yes
    let b := itemsWidth no
    (min a.1 b.1, max a.2 b.2)

def itemsWidth : List Item → Nat × Nat
  | [] => (0, 0)
  | item :: rest => addWidth item.width (itemsWidth rest)

def branchWidth : List (List Item) → Nat × Nat
  | [] => (widthLimit, 0)
  | items :: rest =>
    let a := itemsWidth items
    let b := branchWidth rest
    (min a.1 b.1, max a.2 b.2)

end

/-- The same item, for items that hold no others. Items with a body are never taken as the same. -/
def Item.same : Item → Item → Bool
  | .literal a, .literal b => a == b
  | .notLiteral a, .notLiteral b => a == b
  | .anyChar, .anyChar => true
  | .set n a, .set m b => n == m && a == b
  | .anchor a, .anchor b => a == b
  | .backref a _ _, .backref b _ _ => a == b
  | _, _ => false

/-- The common first item of all alternatives, if each has one and it is the same. -/
def commonHead? : List (List Item) → Option Item
  | (item :: _) :: rest =>
    if rest.all (fun items => match items with
        | other :: _ => item.same other
        | [] => false)
    then some item else none
  | _ => none

/-- The alternatives with their common leading items moved in front. The first argument bounds the
number of items moved. -/
def factor : Nat → List (List Item) → List Item × List (List Item)
  | 0, alternatives => ([], alternatives)
  | n + 1, alternatives =>
    match commonHead? alternatives with
    | some item =>
      let (moved, rest) := factor n (alternatives.map List.tail)
      (item :: moved, rest)
    | none => ([], alternatives)

/-- The members of a set that stands for an alternative of one character. -/
def singleMembers? : List Item → Option (List SetMember)
  | [.literal c] => some [.code c]
  | [.set false members] => some members
  | _ => none

/-- A choice between alternatives: common leading items are shared, and a choice between single
characters is one set. -/
def joinAlternatives (alternatives : List (List Item)) : List Item :=
  match alternatives with
  | [] => []
  | [items] => items
  | _ =>
    let bound := (alternatives.map List.length).foldl max 0
    let (moved, rest) := factor bound alternatives
    match rest.mapM singleMembers? with
    | some members => moved ++ [.set false members.flatten.eraseDups]
    | none => moved ++ [.branch rest]

def spliceGroups (items : List Item) : List Item :=
  items.flatMap fun
    | .group none [] [] body => body
    | item => [item]

end StackQuery.Regex
