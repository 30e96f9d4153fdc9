import StackQuery.CommandLine.Flag
import StackQuery.Text.Digit

/-!
# Words of a command line

Each argument is told apart before any is used. A lone pair of dashes ends the flags: what follows is
plain. A text with a dash in front is a flag by its full name, by the beginning of a long name, or by a
short name with something attached; else it is plain if it is a negative number or has a space in it.
-/
namespace StackQuery.CommandLine

structure Attached where
  text : List Char
  /-- An equals sign stands between the flag and the text. -/
  signed : Bool
  deriving DecidableEq, Repr

inductive Word where
  | plain (text : String)
  | terminator
  | flag (flag : Flag) (short : Bool) (attached : Option Attached)
  /-- A text that looks like a flag and is none. -/
  | unknown (text : String)
  deriving DecidableEq, Repr

def terminatorText : String := "--"

/-- The name is short: one dash and one letter. -/
def isShortName (name : String) : Bool := name.toList[1]? != some '-'

def cutAtSign (cs : List Char) : List Char × Option Attached :=
  match cs.dropWhile (· != '=') with
  | [] => (cs, none)
  | _ :: value => (cs.takeWhile (· != '='), some ⟨value, true⟩)

/-- A minus sign before a whole number or before a number with a point. -/
def isNegativeNumber (cs : List Char) : Bool :=
  let isDigit (c : Char) : Bool := Text.isDecimal c.toNat
  let unended := if cs.getLast? == some '\n' then cs.dropLast else cs
  match unended with
  | '-' :: number =>
    match number.dropWhile isDigit with
    | [] => !number.isEmpty
    | '.' :: fraction => !fraction.isEmpty && fraction.all isDigit
    | _ => false
  | _ => false

/-- A text that begins with a dash and is no flag by its full name. -/
def classifyDashed (text : String) : Except UsageError Word :=
  let cs := text.toList
  match cutAtSign cs, cs with
  | (name, attached), first :: second :: rest =>
    let candidates : List (String × Flag × Option Attached) :=
      if second == '-' then
        (Flag.completions (String.ofList name)).map fun e => (e.1, e.2, attached)
      else
        ((Flag.ofName? (String.ofList [first, second])).map fun flag =>
          (String.ofList [first, second], flag, some (Attached.mk rest false))).toList
    match attached.bind fun _ => Flag.ofName? (String.ofList name), candidates with
    | some flag, _ => .ok (.flag flag (isShortName (String.ofList name)) attached)
    | none, [(full, flag, attached)] => .ok (.flag flag (isShortName full) attached)
    | none, _ :: _ :: _ => .error (.ambiguous text (candidates.map (·.1)))
    | none, [] =>
      if isNegativeNumber cs || cs.contains ' ' then .ok (.plain text) else .ok (.unknown text)
  | _, _ => .ok (.plain text)

def classify (text : String) : Except UsageError Word :=
  if text.toList.head? == some '-' then
    match Flag.ofName? text with
    | some flag => .ok (.flag flag (isShortName text) none)
    | none => classifyDashed text
  else .ok (.plain text)

def words : List String → Except UsageError (List Word)
  | [] => .ok []
  | text :: rest =>
    if text == terminatorText then .ok (.terminator :: rest.map .plain)
    else do
      let word ← classify text
      return word :: (← words rest)

end StackQuery.CommandLine
