import StackQuery.Regex.Basic

/-!
# Templates of a substitution

A template is literal text with references to groups: `\1` to `\99`, `\g<number>` and `\g<name>`. Other
escapes are control characters and octal codes; a backslash before a letter without a meaning is a
fault, before anything else it stands for itself.
-/
namespace StackQuery.Regex

inductive Piece where
  | literal (text : List Char)
  | group (number : Nat)
  deriving DecidableEq, Repr

/-- Why a template is refused for a regex. -/
inductive TemplateError where
  | ill (error : SyntaxError)
  | unknownGroup (name : String)
  deriving DecidableEq, Repr

def TemplateError.message : TemplateError → String
  | .ill error => error.fault.message
  | .unknownGroup name => (Fault.unknownGroupName name).message

namespace Template

abbrev Reading := Except TemplateError

def failBack {α : Type} (r : Reader) (fault : Fault) (back : Nat) : Reading α :=
  .error (.ill ⟨fault, some (r.place - back)⟩)

def lift {α : Type} : Except SyntaxError α → Reading α
  | .ok a => .ok a
  | .error e => .error (.ill e)

def reference (groups number : Nat) (r : Reader) (back : Nat) : Reading Piece :=
  if groups < number then failBack r (.invalidGroup number) back else .ok (.group number)

def named (groups : Nat) (names : List (String × Nat)) (r : Reader) : Reading (Piece × Reader) := do
  if !r.nextIs '<' then failBack r .missingAngle 0
  else
    let r ← lift r.advance
    let (name, r) ← lift (r.takeUntil '>' "group name")
    let back := name.length + 1
    if Text.isIdentifier name then
      match names.lookup (String.ofList name) with
      | some number => return (← reference groups number r back, r)
      | none => throw (.unknownGroup (String.ofList name))
    else
      match Numeral.readInt name with
      | .ok (.ofNat number) =>
        if groupLimit ≤ number then failBack r (.invalidGroup number) back
        else return (← reference groups number r back, r)
      | _ => failBack r (.badGroupName (String.ofList name)) back

def octal (ds : List Char) : Piece := .literal [Char.ofNat (valueOf 8 ds)]

def numbered (groups : Nat) (c : Char) (r : Reader) : Reading (Piece × Reader) := do
  let (second, r) ← lift (r.takeWhile (·.isDigit) 1)
  let ds := c :: second
  if ds.length == 2 && ds.all isOctalDigit && r.nextIn isOctalDigit then
    let (third, r) ← lift (r.takeWhile isOctalDigit 1)
    let ds := ds ++ third
    if 255 < valueOf 8 ds then
      failBack r (.octalTooLarge (String.ofList ('\\' :: ds))) (ds.length + 1)
    else return (octal ds, r)
  else return (← reference groups (valueOf 10 ds) r ds.length, r)

def escape (groups : Nat) (names : List (String × Nat)) (c : Char) (r : Reader) :
    Reading (Piece × Reader) := do
  if c == 'g' then named groups names r
  else if c == '0' then
    let (ds, r) ← lift (r.takeWhile isOctalDigit 2)
    return (octal ds, r)
  else if c.isDigit then numbered groups c r
  else
    match controlEscape? c with
    | some n => return (.literal [Char.ofNat n], r)
    | none =>
      if Text.isAsciiLetter c.toNat then failBack r (.badEscape (String.ofList ['\\', c])) 2
      else return (.literal ['\\', c], r)

/-- The pieces of what is left of a template. The first argument bounds the number of tokens. -/
def pieces (groups : Nat) (names : List (String × Nat)) : Nat → Reader → Reading (List Piece)
  | 0, _ => .ok []
  | fuel + 1, r =>
    match r.peek? with
    | none => .ok []
    | some token => do
      let r ← lift r.advance
      match token with
      | ['\\', c] =>
        let (piece, r) ← escape groups names c r
        return piece :: (← pieces groups names fuel r)
      | text => return .literal text :: (← pieces groups names fuel r)

def parse (groups : Nat) (names : List (String × Nat)) (template : List Char) :
    Reading (List Piece) := do
  let r ← lift (Reader.ofText template)
  pieces groups names (r.tokens.length + 1) r

end Template

def Match.expand (pieces : List Piece) (subject : Array Char) (m : Match) : List Char :=
  pieces.flatMap fun
    | .literal text => text
    | .group number => m.group subject number

def substitute (regex : Regex) (template : String) (name : String) : Except TemplateError String := do
  let pieces ← Template.parse regex.groups regex.names template.toList
  return regex.replaceAll (Match.expand pieces) name

end StackQuery.Regex
