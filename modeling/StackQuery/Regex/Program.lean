import StackQuery.Regex.Parser
import StackQuery.Text.Case

/-!
# Programs of a regex

A program is what a regex does once its flags are settled: every test of a character knows how it treats
case and which classes it uses, every loop and look-around knows its bounds.
-/
namespace StackQuery.Regex

/-- How letters that differ only in case are told apart. -/
inductive Fold where
  | exact
  | ascii
  | unicode
  deriving DecidableEq, Repr

def Fold.apply : Fold → Nat → Nat
  | .exact, c => c
  | .ascii, c => Text.lowerAscii c
  | .unicode, c => Text.lower c

inductive CharTest where
  | any (lineFeed : Bool)
  | code (fold : Fold) (c : Nat) (negated : Bool)
  | set (fold : Fold) (unicode negated : Bool) (members : List SetMember)
  deriving DecidableEq, Repr

/-- Membership in a class, with the code points of Unicode or those of ASCII. -/
def Category.contains (unicode : Bool) (c : Nat) : Category → Bool
  | .digit => if unicode then Text.isDecimal c else Text.isAsciiDigit c
  | .blank => if unicode then Text.isBlankCode c else Text.isAsciiBlank c
  | .word => if unicode then Text.isWord c else Text.isAsciiWord c

def setFoldLimit : Nat := 0x10000

/-- The code points below the limit that fold to `c` or to one of its siblings. -/
def foldSources (fold : Fold) (c : Nat) : List Nat :=
  match fold with
  | .exact => [c]
  | .ascii => if 97 ≤ c && c ≤ 122 then [c, c - 32] else [c]
  | .unicode =>
    ((c :: Text.siblings c).flatMap fun x => x :: Text.uppers x).filter (· < setFoldLimit)

def SetMember.contains (fold : Fold) (unicode : Bool) (c : Nat) : SetMember → Bool
  | .code n =>
    match fold with
    | .unicode =>
      if n < setFoldLimit then
        let low := Text.lower n
        c == low || (Text.siblings low).contains c
      else c == n
    | _ => fold.apply n == c
  | .range lower upper =>
    if fold == .exact then lower ≤ c && c ≤ upper
    else
      (foldSources fold c).any (fun x => lower ≤ x && x ≤ upper) ||
        (setFoldLimit ≤ upper &&
          (c :: Text.uppers c).any (fun x => lower ≤ x && x ≤ upper))
  | .category kind negated => kind.contains unicode c != negated

def CharTest.accepts (c : Nat) : CharTest → Bool
  | .any lineFeed => lineFeed || c != 10
  | .code fold n negated =>
    match fold with
    | .unicode =>
      let low := Text.lower n
      (Text.lower c == low || (Text.siblings low).contains (Text.lower c)) != negated
    | _ => (fold.apply c == fold.apply n) != negated
  | .set fold unicode negated members =>
    (members.any (·.contains fold unicode (fold.apply c))) != negated

/-- A place in the subject that a program can ask for. -/
inductive Place where
  | textStart
  | lineStart
  | textEnd
  /-- The end, or before a line feed that ends the subject. -/
  | lastLineEnd
  | lineEnd
  | boundary (unicode negated : Bool)
  deriving DecidableEq, Repr

inductive Program where
  | empty
  | one (test : CharTest)
  | seq (first second : Program)
  | choice (first second : Program)
  | never
  | capture (group : Nat) (body : Program)
  | loop (greed : Greed) (least : Nat) (greatest : Option Nat) (body : Program)
  | at (place : Place)
  /-- A look ahead, or behind by a fixed number of characters. -/
  | look (behind : Option Nat) (negated : Bool) (body : Program)
  | atomic (body : Program)
  | backref (fold : Fold) (group : Nat)
  | conditional (group : Nat) (yes no : Program)

def FlagSet.fold (flags : FlagSet) : Fold :=
  if flags.contains .ignoreCase then
    if flags.contains .unicode then .unicode else .ascii
  else .exact

def Anchor.place (flags : FlagSet) : Anchor → Place
  | .lineStart => if flags.contains .multiline then .lineStart else .textStart
  | .lineEnd => if flags.contains .multiline then .lineEnd else .lastLineEnd
  | .textStart => .textStart
  | .textEnd => .textEnd
  | .boundary => .boundary (flags.contains .unicode) false
  | .nonBoundary => .boundary (flags.contains .unicode) true

def Greed.operatorName : Greed → String
  | .greedy => "MAX_REPEAT"
  | .reluctant => "MIN_REPEAT"
  | .possessive => "POSSESSIVE_REPEAT"

/-- The number of characters a look-behind goes back, if its body has a fixed width. -/
def lookbehindWidth (body : List Item) : Except Fault Nat :=
  let (least, greatest) := itemsWidth body
  if repetitionLimit < least then .error .lookbehindTooLong
  else if least != greatest then .error .variableLookbehind
  else .ok least

mutual

def Item.program (flags : FlagSet) : Item → Except Fault Program
  | .literal c => .ok (.one (.code flags.fold c false))
  | .notLiteral c => .ok (.one (.code flags.fold c true))
  | .anyChar => .ok (.one (.any (flags.contains .dotAll)))
  | .set negated members =>
    .ok (.one (.set flags.fold (flags.contains .unicode) negated members))
  | .anchor anchor => .ok (.at (anchor.place flags))
  | .backref group _ _ => .ok (.backref flags.fold group)
  | .branch alternatives => branchProgram flags alternatives
  | .group number on off body => do
    let inner ← itemsProgram (flags.combine on off) body
    return match number with
      | some group => .capture group inner
      | none => inner
  | .atomic body => do return .atomic (← itemsProgram flags body)
  | .loop greed least greatest body =>
    if flags.contains .template then .error (.templateOperator greed.operatorName)
    else do return .loop greed least greatest (← itemsProgram flags body)
  | .look behind negated body => do
    let back ← if behind then some <$> lookbehindWidth body else pure none
    return .look back negated (← itemsProgram flags body)
  | .conditional group yes no => do
    return .conditional group (← itemsProgram flags yes) (← itemsProgram flags no)

def itemsProgram (flags : FlagSet) : List Item → Except Fault Program
  | [] => .ok .empty
  | item :: rest => do return .seq (← item.program flags) (← itemsProgram flags rest)

def branchProgram (flags : FlagSet) : List (List Item) → Except Fault Program
  | [] => .ok .never
  | items :: rest => do return .choice (← itemsProgram flags items) (← branchProgram flags rest)

end

end StackQuery.Regex
