import StackQuery.Text.Utf8
import StackQuery.Yaml.Token

/-!
# From characters to tokens

Indentation opens and closes block collections. A token that may turn out to be the key of a mapping
leaves a slot before it; when the colon comes, the slot becomes a key, and the beginning of a mapping
where the key opens one. At the end the slots that are left empty vanish.
-/
namespace StackQuery.Yaml

/-- A place in the sequence of tokens. -/
inductive Slot where
  | token (t : Token)
  /-- A place where a key may begin, with its number. -/
  | keyPlace (number : Nat)

/-- A token that may be a key. -/
structure PossibleKey where
  number : Nat
  /-- The token has to be a key: it is the first of its line, at the current indentation. -/
  required : Bool
  index : Nat
  line : Nat
  column : Nat

structure Lexer where
  cursor : Cursor
  slots : List Slot
  places : Nat
  /-- The key places that became keys; the flag says that a mapping begins there. -/
  keys : List (Nat × Bool)
  indent : Int
  outer : List Int
  flow : Nat
  keyAllowed : Bool
  possible : List (Nat × PossibleKey)

/-- A step of reading; absent if the stream is ill-formed. -/
abbrev Scan := StateT Lexer Option

namespace Lexer

def keyLimit : Nat := 1024

def start (text : List Char) : Lexer := ⟨.start text, [], 0, [], -1, [], 0, true, []⟩

def peek (ahead : Nat) : Scan (Option Char) := do return (← get).cursor.rest[ahead]?

def skip (n : Nat) : Scan Unit := modify fun s => { s with cursor := s.cursor.skip n }

def column : Scan Int := do return Int.ofNat (← get).cursor.column

def takeWhile (p : Char → Bool) : Scan (List Char) := do
  let found := (← get).cursor.rest.takeWhile p
  skip found.length
  return found

def takeSpaces : Scan (List Char) := takeWhile (· == ' ')

def skipComment : Scan Unit := do
  if (← peek 0) == some '#' then
    let _ ← takeWhile (!isBreak ·)

/-- Takes a line break; separators of lines and paragraphs stay, every other break is a line feed. -/
def takeBreak : Scan (List Char) := do
  match ← peek 0 with
  | some c =>
    if c == '\u2028' || c == '\u2029' then
      skip 1
      return [c]
    else if isBreak c then
      skip (if c == '\r' && (← peek 1) == some '\n' then 2 else 1)
      return ['\n']
    else return []
  | none => return []

def require (b : Bool) : Scan Unit := if b then return () else failure

def atDocumentMark : Scan Bool := do
  let front := (← get).cursor.rest.take 3
  return (front == ['-', '-', '-'] || front == ['.', '.', '.']) && blanks (← peek 3)

def push (t : Token) : Scan Unit := modify fun s => { s with slots := .token t :: s.slots }

/-- Forgets the possible key of the current flow level; one that is required is missing its colon. -/
def dropPossible : Scan Unit := do
  let s ← get
  match s.possible.lookup s.flow with
  | some k =>
    require (!k.required)
    set { s with possible := s.possible.filter (·.1 != s.flow) }
  | none => return ()

def dropStale : Scan Unit := do
  let s ← get
  let stale (k : PossibleKey) : Bool :=
    k.line != s.cursor.line || keyLimit < s.cursor.index - k.index
  require (s.possible.all fun p => !(stale p.2 && p.2.required))
  set { s with possible := s.possible.filter fun p => !stale p.2 }

def markPossible : Scan Unit := do
  let s ← get
  if s.keyAllowed then
    dropPossible
    let s ← get
    let k : PossibleKey := ⟨s.places, s.flow == 0 && s.indent == Int.ofNat s.cursor.column,
      s.cursor.index, s.cursor.line, s.cursor.column⟩
    set { s with
      slots := .keyPlace s.places :: s.slots
      places := s.places + 1
      possible := (s.flow, k) :: s.possible }

def allowKey (b : Bool) : Scan Unit := modify fun s => { s with keyAllowed := b }

def unwindTo (column : Int) : List Int → Int → List Slot → (List Int × Int × List Slot)
  | outer, indent, slots =>
    if column < indent then
      match outer with
      | next :: rest => unwindTo column rest next (.token .blockEnd :: slots)
      | [] => ([], indent, slots)
    else (outer, indent, slots)

def unwind (column : Int) : Scan Unit := modify fun s =>
  if s.flow == 0 then
    let (outer, indent, slots) := unwindTo column s.outer s.indent s.slots
    { s with outer, indent, slots }
  else s

def openIndent (column : Int) : Scan Bool := do
  let s ← get
  if s.indent < column then
    set { s with outer := s.indent :: s.outer, indent := column }
    return true
  else return false

/-- Skips spaces, comments and line breaks. After a break outside flow collections a key may come. -/
def skipToToken : Nat → Scan Unit
  | 0 => failure
  | fuel + 1 => do
    let s ← get
    if s.cursor.index == 0 && (← peek 0) == some Cursor.byteOrderMark then skip 1
    let _ ← takeSpaces
    skipComment
    match ← takeBreak with
    | [] => return ()
    | _ =>
      if s.flow == 0 then allowKey true
      skipToToken fuel

def takeName : Scan String := do
  let name ← takeWhile isNameChar
  require (!name.isEmpty)
  return String.ofList name

def hexValue (ds : List Char) : Nat :=
  ds.foldl (fun n d => n * 16 +
    (if d.isDigit then d.toNat - 48 else if d.toNat < 97 then d.toNat - 55 else d.toNat - 87)) 0

def takeEscapedBytes : Nat → Scan (List UInt8)
  | 0 => return []
  | fuel + 1 => do
    if (← peek 0) == some '%' then
      let ds := ((← get).cursor.rest.drop 1).take 2
      require (ds.length == 2 && ds.all isHex)
      skip 3
      return UInt8.ofNat (hexValue ds) :: (← takeEscapedBytes fuel)
    else return []

def isUriChar (c : Char) : Bool :=
  c.isAlphanum || "-;/?:@&=+$,_.!~*'()[]".toList.contains c

def takeUri : Nat → Scan (List Char)
  | 0 => return []
  | fuel + 1 => do
    match ← takeWhile isUriChar with
    | [] =>
      if (← peek 0) == some '%' then
        match Utf8.decode (← takeEscapedBytes (fuel + 1)) with
        | .ok cs => return cs ++ (← takeUri fuel)
        | .error _ => failure
      else return []
    | cs => return cs ++ (← takeUri fuel)

def takeUri1 : Scan String := do
  let startIndex := (← get).cursor.index
  let cs ← takeUri ((← get).cursor.rest.length + 1)
  require ((← get).cursor.index != startIndex)
  return String.ofList cs

/-- A handle: exclamation marks around a name, or one alone. -/
def takeHandle : Scan String := do
  require ((← peek 0) == some '!')
  if (← peek 1) == some ' ' then
    skip 1
    return "!"
  else
    let name := ((← get).cursor.rest.drop 1).takeWhile isNameChar
    if (← peek (name.length + 1)) == some '!' then
      skip (name.length + 2)
      return String.ofList ('!' :: name ++ ['!'])
    else failure

def takeNumber : Scan Nat := do
  let ds ← takeWhile Char.isDigit
  require (!ds.isEmpty)
  return ds.foldl (fun n d => n * 10 + (d.toNat - 48)) 0

/-- Takes what may stand after a directive or the head of a block scalar. -/
def endLine : Scan Unit := do
  let _ ← takeSpaces
  skipComment
  require (breaks (← peek 0))
  let _ ← takeBreak

def takeDirective : Scan Directive := do
  skip 1
  let name ← takeName
  require (spaces (← peek 0))
  let directive ← match name with
    | "YAML" => do
      let _ ← takeSpaces
      let major ← takeNumber
      require ((← peek 0) == some '.')
      skip 1
      let _ ← takeNumber
      require (spaces (← peek 0))
      pure (Directive.version major)
    | "TAG" => do
      let _ ← takeSpaces
      let handle ← takeHandle
      require ((← peek 0) == some ' ')
      let _ ← takeSpaces
      let front ← takeUri1
      require (spaces (← peek 0))
      pure (Directive.tag handle front)
    | _ => do
      let _ ← takeWhile (!isBreak ·)
      pure Directive.reserved
  endLine
  return directive

def takeReference : Scan String := do
  skip 1
  let name ← takeName
  let c ← peek 0
  require (blanks c || (c.map fun c => "?:,]\x7d%@`".toList.contains c).getD true)
  return name

def hasHandle (rest : List Char) : Bool :=
  ((rest.drop 1).takeWhile fun c => !isBreak c && c != ' ').contains '!'

def takeTag : Scan Token := do
  let tag ← match ← peek 1 with
    | some '<' => do
      skip 2
      let suffix ← takeUri1
      require ((← peek 0) == some '>')
      skip 1
      pure (Token.tag none suffix)
    | c => do
      if blanks c then
        skip 1
        pure (Token.tag none "!")
      else
        let handle ← if hasHandle (← get).cursor.rest then takeHandle else do
          skip 1
          pure "!"
        let suffix ← takeUri1
        pure (Token.tag (some handle) suffix)
  require (spaces (← peek 0))
  return tag

/-- What happens to the line breaks at the end of a block scalar. -/
inductive Chomping where
  | clip
  | strip
  | keep
  deriving DecidableEq, Repr

def takeChomping : Scan Chomping := do
  match ← peek 0 with
  | some '+' => do
    skip 1
    return .keep
  | some '-' => do
    skip 1
    return .strip
  | _ => return .clip

def takeIncrement : Scan (Option Nat) := do
  match ← peek 0 with
  | some c =>
    if c.isDigit then
      require (c != '0')
      skip 1
      return some (c.toNat - 48)
    else return none
  | none => return none

def takeBlockHead : Scan (Chomping × Option Nat) := do
  let chomping ← takeChomping
  let increment ← takeIncrement
  let chomping ← if chomping == .clip && increment.isSome then takeChomping else pure chomping
  require (spaces (← peek 0))
  endLine
  return (chomping, increment)

/-- The empty lines at the beginning of a block scalar, and the furthest column among their spaces. -/
def takeLeadingBreaks : Nat → Nat → Scan (List Char × Nat)
  | 0, furthest => return ([], furthest)
  | fuel + 1, furthest => do
    match ← peek 0 with
    | some ' ' =>
      skip 1
      takeLeadingBreaks fuel (max furthest (← get).cursor.column)
    | c =>
      if breaks c && c.isSome then
        let b ← takeBreak
        let (bs, furthest) ← takeLeadingBreaks fuel furthest
        return (b ++ bs, furthest)
      else return ([], furthest)

def takeIndentation (indent : Nat) : Nat → Scan Unit
  | 0 => return ()
  | fuel + 1 => do
    if (← get).cursor.column < indent && (← peek 0) == some ' ' then
      skip 1
      takeIndentation indent fuel

def takeBlockBreaks (indent : Nat) : Nat → Scan (List Char)
  | 0 => return []
  | fuel + 1 => do
    takeIndentation indent indent
    let c ← peek 0
    if breaks c && c.isSome then
      let b ← takeBreak
      return b ++ (← takeBlockBreaks indent fuel)
    else return []

/-- The lines of a block scalar; gives its text without the breaks at its end, the last break, and the
empty lines after it. -/
def takeBlockLines (folded : Bool) (indent : Nat) : Nat → List Char → Scan (List Char × List Char × List Char)
  | 0, breaksBefore => return ([], [], breaksBefore)
  | fuel + 1, breaksBefore => do
    let blankStart := (← peek 0) == some ' ' || (← peek 0) == some '\t'
    let line ← takeWhile (!isBreak ·)
    let lineBreak ← takeBreak
    let after ← takeBlockBreaks indent (fuel + 1)
    let c ← peek 0
    if (← get).cursor.column == indent && c.isSome then
      let joint :=
        if folded && lineBreak == ['\n'] && !blankStart && c != some ' ' && c != some '\t' then
          if after.isEmpty then [' '] else []
        else lineBreak
      let (more, lastBreak, tail) ← takeBlockLines folded indent fuel after
      return (breaksBefore ++ line ++ joint ++ more, lastBreak, tail)
    else return (breaksBefore ++ line, lineBreak, after)

def takeBlockScalar (folded : Bool) : Scan Token := do
  skip 1
  let (chomping, increment) ← takeBlockHead
  let least := (max ((← get).indent + 1) 1).toNat
  let fuel := (← get).cursor.rest.length + 1
  let (before, indent) ← match increment with
    | none => do
      let (before, furthest) ← takeLeadingBreaks fuel 0
      pure (before, max least furthest)
    | some n => do
      let indent := least + n - 1
      pure (← takeBlockBreaks indent fuel, indent)
  let (text, lastBreak, tail) ←
    if (← get).cursor.column == indent && (← peek 0).isSome then takeBlockLines folded indent fuel before
    else pure ([], [], before)
  let ending := match chomping with
    | .strip => []
    | .clip => lastBreak
    | .keep => lastBreak ++ tail
  return .scalar (String.ofList (text ++ ending)) false

def escape? : Char → Option Char
  | '0' => some '\x00'
  | 'a' => some '\x07'
  | 'b' => some '\x08'
  | 't' => some '\t'
  | '\t' => some '\t'
  | 'n' => some '\n'
  | 'v' => some '\x0b'
  | 'f' => some '\x0c'
  | 'r' => some '\r'
  | 'e' => some '\x1b'
  | ' ' => some ' '
  | '"' => some '"'
  | '\\' => some '\\'
  | '/' => some '/'
  | 'N' => some '\x85'
  | '_' => some '\xa0'
  | 'L' => some '\u2028'
  | 'P' => some '\u2029'
  | _ => none

def escapeLength? : Char → Option Nat
  | 'x' => some 2
  | 'u' => some 4
  | 'U' => some 8
  | _ => none

def takeQuotedBreaks : Nat → Scan (List Char)
  | 0 => return []
  | fuel + 1 => do
    require (!(← atDocumentMark))
    let _ ← takeWhile fun c => c == ' ' || c == '\t'
    match ← takeBreak with
    | [] => return []
    | b => return b ++ (← takeQuotedBreaks fuel)

/-- Blanks and line breaks inside a quoted scalar. A single break is a space. -/
def takeQuotedBlanks : Scan (List Char) := do
  let blanks ← takeWhile fun c => c == ' ' || c == '\t'
  require ((← peek 0).isSome)
  match ← takeBreak with
  | [] => return blanks
  | b =>
    let more ← takeQuotedBreaks ((← get).cursor.rest.length + 1)
    if b != ['\n'] then return b ++ more
    else if more.isEmpty then return [' ']
    else return more

def takeEscape : Scan (List Char) := do
  match ← peek 0 with
  | none => failure
  | some c =>
    match escape? c, escapeLength? c with
    | some e, _ => do
      skip 1
      return [e]
    | none, some n => do
      let ds := ((← get).cursor.rest.drop 1).take n
      let value := hexValue ds
      require (ds.length == n && ds.all isHex && value < 0x110000)
      skip (n + 1)
      return [Char.ofNat value]
    | none, none => do
      match ← takeBreak with
      | [] => failure
      | _ => takeQuotedBreaks ((← get).cursor.rest.length + 1)

def takeQuoted (double : Bool) : Nat → Scan (List Char)
  | 0 => failure
  | fuel + 1 => do
    let plain ← takeWhile fun c =>
      !(c == '\'' || c == '"' || c == '\\' || c == ' ' || c == '\t' || isBreak c)
    match ← peek 0 with
    | none => failure
    | some c =>
      if c == '\'' && !double && (← peek 1) == some '\'' then
        skip 2
        return plain ++ '\'' :: (← takeQuoted double fuel)
      else if c == (if double then '"' else '\'') then
        skip 1
        return plain
      else if c == '\'' || c == '"' || (c == '\\' && !double) then
        skip 1
        return plain ++ c :: (← takeQuoted double fuel)
      else if c == '\\' then
        skip 1
        let e ← takeEscape
        return plain ++ e ++ (← takeQuoted double fuel)
      else
        let bs ← takeQuotedBlanks
        return plain ++ bs ++ (← takeQuoted double fuel)

/-- Line breaks after a piece of a plain scalar; absent if a document mark follows. -/
def takePlainBreaks : Nat → Scan (Option (List Char))
  | 0 => return some []
  | fuel + 1 => do
    match ← peek 0 with
    | some ' ' =>
      skip 1
      takePlainBreaks fuel
    | c =>
      if breaks c && c.isSome then
        let b ← takeBreak
        if ← atDocumentMark then return none
        return (← takePlainBreaks fuel).map (b ++ ·)
      else return some []

/-- What separates two pieces of a plain scalar; absent if nothing does or a document mark follows. -/
def takePlainBlanks : Scan (Option (List Char)) := do
  let blanks ← takeSpaces
  match ← takeBreak with
  | [] => return if blanks.isEmpty then none else some blanks
  | b =>
    allowKey true
    if ← atDocumentMark then return none
    match ← takePlainBreaks ((← get).cursor.rest.length + 1) with
    | none => return none
    | some more =>
      return some (if b != ['\n'] then b ++ more else if more.isEmpty then [' '] else more)

def plainLength (inFlow : Bool) : List Char → Nat
  | [] => 0
  | c :: rest =>
    let stopsAfterColon := match rest.head? with
      | none => true
      | some d => blanks (some d) || (inFlow && ",[]\x7b\x7d".toList.contains d)
    if blanks (some c) || (c == ':' && stopsAfterColon) || (inFlow && ",?[]\x7b\x7d".toList.contains c)
    then 0
    else plainLength inFlow rest + 1

def takePlain (indent : Int) : Nat → (separator : List Char) → Scan (List Char)
  | 0, _ => return []
  | fuel + 1, separator => do
    if (← peek 0) == some '#' then return []
    let s ← get
    let length := plainLength (s.flow != 0) s.cursor.rest
    if length == 0 then return []
    allowKey false
    skip length
    let piece := separator ++ s.cursor.rest.take length
    match ← takePlainBlanks with
    | none => return piece
    | some separator =>
      if (← peek 0) == some '#' || (s.flow == 0 && (← column) < indent) then return piece
      return piece ++ (← takePlain indent fuel separator)

def startsPlain (inFlow : Bool) (c : Char) (following : Option Char) : Bool :=
  !(blanks (some c) || "-?:,[]\x7b\x7d#&*!|>'\"%@`".toList.contains c) ||
    (!blanks following && (c == '-' || (!inFlow && (c == '?' || c == ':'))))

def openFlow (t : Token) : Scan Unit := do
  markPossible
  modify fun s => { s with flow := s.flow + 1, keyAllowed := true }
  skip 1
  push t

def closeFlow (t : Token) : Scan Unit := do
  dropPossible
  require ((← get).flow != 0)
  modify fun s => { s with flow := s.flow - 1, keyAllowed := false }
  skip 1
  push t

def pushNodeToken (take : Scan Token) : Scan Unit := do
  markPossible
  allowKey false
  push (← take)

/-- A sign that begins an entry or a key at the current column, outside flow collections. -/
def openBlock (t : Token) : Scan Unit := do
  let s ← get
  if s.flow == 0 then
    require s.keyAllowed
    if ← openIndent (← column) then push t

def takeBlockEntry : Scan Unit := do
  openBlock .blockSequenceStart
  allowKey true
  dropPossible
  skip 1
  push .blockEntry

def takeKey : Scan Unit := do
  openBlock .blockMappingStart
  allowKey ((← get).flow == 0)
  dropPossible
  skip 1
  push .key

/-- A colon turns the possible key of its flow level into a key; without one the key is empty. -/
def takeValue : Scan Unit := do
  let s ← get
  match s.possible.lookup s.flow with
  | some k =>
    set { s with possible := s.possible.filter (·.1 != s.flow) }
    let opens ← if s.flow == 0 then openIndent (Int.ofNat k.column) else pure false
    modify fun s => { s with keys := (k.number, opens) :: s.keys, keyAllowed := false }
  | none =>
    openBlock .blockMappingStart
    allowKey (s.flow == 0)
    dropPossible
  skip 1
  push .value

def takeDocumentMark (t : Token) : Scan Unit := do
  unwind (-1)
  dropPossible
  allowKey false
  skip 3
  push t

/-- Takes the next token; the flag says that the stream has ended. -/
def takeToken (fuel : Nat) : Scan Bool := do
  skipToToken fuel
  dropStale
  unwind (← column)
  let s ← get
  let following := s.cursor.rest[1]?
  let inFlow := s.flow != 0
  match s.cursor.rest.head? with
  | none =>
    unwind (-1)
    dropPossible
    return true
  | some c =>
    let atMark := s.cursor.column == 0 && (← atDocumentMark)
    if c == '%' && s.cursor.column == 0 then
      unwind (-1)
      dropPossible
      allowKey false
      push (.directive (← takeDirective))
    else if c == '-' && atMark then takeDocumentMark .documentStart
    else if c == '.' && atMark then takeDocumentMark .documentEnd
    else if c == '[' then openFlow .flowSequenceStart
    else if c == '\x7b' then openFlow .flowMappingStart
    else if c == ']' then closeFlow .flowSequenceEnd
    else if c == '\x7d' then closeFlow .flowMappingEnd
    else if c == ',' then
      allowKey true
      dropPossible
      skip 1
      push .flowEntry
    else if c == '-' && blanks following then takeBlockEntry
    else if c == '?' && (inFlow || blanks following) then takeKey
    else if c == ':' && (inFlow || blanks following) then takeValue
    else if c == '*' then pushNodeToken do return .alias (← takeReference)
    else if c == '&' then pushNodeToken do return .anchor (← takeReference)
    else if c == '!' then pushNodeToken takeTag
    else if (c == '|' || c == '>') && !inFlow then
      allowKey true
      dropPossible
      push (← takeBlockScalar (c == '>'))
    else if c == '\'' || c == '"' then
      pushNodeToken do
        skip 1
        return .scalar (String.ofList (← takeQuoted (c == '"') (fuel + 1))) false
    else if startsPlain inFlow c following then
      pushNodeToken do return .scalar (String.ofList (← takePlain (s.indent + 1) fuel [])) true
    else failure
    return false

def takeTokens (size : Nat) : Nat → Scan Unit
  | 0 => failure
  | fuel + 1 => do
    if ← takeToken size then return ()
    takeTokens size fuel

def fill (keys : List (Nat × Bool)) : Slot → List Token
  | .token t => [t]
  | .keyPlace number =>
    match keys.lookup number with
    | some true => [.blockMappingStart, .key]
    | some false => [.key]
    | none => []

end Lexer

def tokens (text : String) : Option (List Token) :=
  let cs := text.toList
  if cs.all isPrintable then
    let size := cs.length + 2
    ((Lexer.takeTokens size (2 * size)).run (Lexer.start cs)).map fun (_, s) =>
      s.slots.reverse.flatMap (Lexer.fill s.keys)
  else none

end StackQuery.Yaml
