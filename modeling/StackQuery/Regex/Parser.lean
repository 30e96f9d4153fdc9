import StackQuery.Number.Numeral
import StackQuery.Regex.Token
import StackQuery.Text.Identifier
import StackQuery.Text.CharName

/-!
# Reading a regex

The reader turns a text into items. It keeps the flags set for the whole text, the names and widths of
the groups, and which groups lie outside the look-behind it is in. The recursion is bounded by the
number of tokens: every step that goes deeper has read at least one.
-/
namespace StackQuery.Regex

variable [Text.CharNames]

/-- What is known while a regex is read. -/
structure ParseState where
  reader : Reader
  flags : FlagSet
  /-- Names of groups with their numbers, in the order of the text. -/
  names : List (String × Nat)
  /-- The widths of the groups by number; absent for group zero and for groups still open. -/
  widths : Array (Option (Nat × Nat))
  /-- The number of groups before the outermost look-behind around the next token. -/
  lookbehindGroups : Option Nat
  /-- The groups that conditionals ask for by number, with the place of the first mention. -/
  conditionals : List (Nat × Nat)

abbrev Parser := StateT ParseState (Except CompileError)

def repetitionLimit : Nat := 4294967295

def groupLimit : Nat := 2147483647

def signedWordLimit : Nat := 2147483648

namespace Parser

def failBack {α : Type} (fault : Fault) (back : Nat) : Parser α := do
  throw (.ill ⟨fault, some ((← get).reader.place - back)⟩)

def failAt {α : Type} (fault : Fault) (place : Nat) : Parser α :=
  throw (.ill ⟨fault, some place⟩)

def reading {α : Type} (step : Reader → Except SyntaxError (α × Reader)) : Parser α := do
  let s ← get
  match step s.reader with
  | .ok (a, r) =>
    set { s with reader := r }
    return a
  | .error e => throw (.ill e)

def peek? : Parser (Option (List Char)) := return (← get).reader.peek?

def next? : Parser (Option (List Char)) :=
  reading fun r => do return (r.peek?, ← r.advance)

def accept (c : Char) : Parser Bool := do
  if (← get).reader.nextIs c then
    let _ ← next?
    return true
  else return false

def takeWhile (p : Char → Bool) (n : Nat) : Parser (List Char) := reading (Reader.takeWhile p n)

def takeUntil (terminator : Char) (what : String) : Parser (List Char) :=
  reading (Reader.takeUntil terminator what)

def groupCount : Parser Nat := return (← get).widths.size

def closedWidth? (group : Nat) : Parser (Option (Nat × Nat)) :=
  return ((← get).widths[group]?).join

/-- Inside a look-behind only groups that were closed before it may be referred to. -/
def checkLookbehind (group : Nat) : Parser Unit := do
  match (← get).lookbehindGroups with
  | none => return
  | some outside =>
    if (← closedWidth? group).isNone then failBack .openGroup 0
    else if outside ≤ group then failBack .groupOfSameLookbehind 0
    else return

end Parser

open StackQuery.Regex.Parser

def isOctalDigit (c : Char) : Bool := '0' ≤ c && c ≤ '7'

def isHexDigit (c : Char) : Bool := c.isDigit || ('a' ≤ c && c ≤ 'f') || ('A' ≤ c && c ≤ 'F')

def hexValue (c : Char) : Nat :=
  if c.isDigit then c.toNat - 48 else if 'a' ≤ c then c.toNat - 87 else c.toNat - 55

def valueOf (base : Nat) (ds : List Char) : Nat := ds.foldl (fun n d => n * base + hexValue d) 0

/-- The character of an escape by a letter that stands for a control character. -/
def controlEscape? : Char → Option Nat
  | 'a' => some 7
  | 'b' => some 8
  | 'f' => some 12
  | 'n' => some 10
  | 'r' => some 13
  | 't' => some 9
  | 'v' => some 11
  | '\\' => some 92
  | _ => none

/-- The class of an escape by a letter that stands for a class. -/
def categoryEscape? : Char → Option SetMember
  | 'd' => some (.category .digit false)
  | 'D' => some (.category .digit true)
  | 's' => some (.category .blank false)
  | 'S' => some (.category .blank true)
  | 'w' => some (.category .word false)
  | 'W' => some (.category .word true)
  | _ => none

def anchorEscape? : Char → Option Anchor
  | 'A' => some .textStart
  | 'b' => some .boundary
  | 'B' => some .nonBoundary
  | 'Z' => some .textEnd
  | _ => none

def parseHexEscape (letter : Char) (width : Nat) : Parser Nat := do
  let ds ← takeWhile isHexDigit width
  let text := '\\' :: letter :: ds
  if ds.length != width then failBack (.incompleteEscape (String.ofList text)) text.length
  else
    let n := valueOf 16 ds
    if n ≤ 0x10FFFF then return n
    else if signedWordLimit ≤ n then throw .codePointTooLarge
    else failBack (.badEscape (String.ofList text)) text.length

def parseNameEscape : Parser Nat := do
  if !(← accept '\x7b') then failBack .missingBrace 0
  else
    let name ← takeUntil '\x7d' "character name"
    match Text.CharNames.codeOf? (String.ofList name) with
    | some c => return c
    | none => failBack (.undefinedCharacter (String.ofList name)) (name.length + 4)

/-- The escapes that have the same meaning inside and outside a set; `none` for any other letter. -/
def parseCodeEscape? (c : Char) : Parser (Option Nat) := do
  if c == 'x' then some <$> parseHexEscape c 2
  else if c == 'u' then some <$> parseHexEscape c 4
  else if c == 'U' then some <$> parseHexEscape c 8
  else if c == 'N' then some <$> parseNameEscape
  else return none

/-- An escape of a character that has no meaning of its own: a letter is refused. -/
def parsePlainEscape (c : Char) : Parser Nat :=
  if Text.isAsciiLetter c.toNat || Text.isAsciiDigit c.toNat then
    failBack (.badEscape (String.ofList ['\\', c])) 2
  else return c.toNat

def parseSetEscape (c : Char) : Parser SetMember := do
  match controlEscape? c, categoryEscape? c with
  | some n, _ => return .code n
  | none, some member => return member
  | none, none =>
    match ← parseCodeEscape? c with
    | some n => return .code n
    | none =>
      if isOctalDigit c then
        let ds := c :: (← takeWhile isOctalDigit 2)
        if 255 < valueOf 8 ds then
          failBack (.octalTooLarge (String.ofList ('\\' :: ds))) (ds.length + 1)
        else return .code (valueOf 8 ds)
      else return .code (← parsePlainEscape c)

def parseBackref (ds : List Char) : Parser Item := do
  let group := valueOf 10 ds
  if group < (← groupCount) then
    match ← closedWidth? group with
    | none => failBack .openGroup (ds.length + 1)
    | some (least, greatest) =>
      checkLookbehind group
      return .backref group least greatest
  else failBack (.invalidGroup group) ds.length

/-- An escape that starts with a digit other than zero: three octal digits are a character, else one or
two digits are a group. -/
def parseNumberEscape (c : Char) : Parser Item := do
  match ← takeWhile (·.isDigit) 1 with
  | [] => parseBackref [c]
  | second =>
    let ds := c :: second
    if ds.all isOctalDigit && (← get).reader.nextIn isOctalDigit then
      let ds := ds ++ (← takeWhile isOctalDigit 1)
      if 255 < valueOf 8 ds then
        failBack (.octalTooLarge (String.ofList ('\\' :: ds))) (ds.length + 1)
      else return .literal (valueOf 8 ds)
    else parseBackref ds

def parseEscape (c : Char) : Parser Item := do
  match anchorEscape? c, categoryEscape? c, controlEscape? c with
  | some anchor, _, _ => return .anchor anchor
  | none, some member, _ => return .set false [member]
  | none, none, some n => return .literal n
  | none, none, none =>
    match ← parseCodeEscape? c with
    | some n => return .literal n
    | none =>
      if c == '0' then return .literal (valueOf 8 (← takeWhile isOctalDigit 2))
      else if c.isDigit then parseNumberEscape c
      else return .literal (← parsePlainEscape c)

/-- One end of a set member: a character or an escape. -/
def parseSetEnd (token : List Char) : Parser SetMember :=
  match token with
  | ['\\', c] => parseSetEscape c
  | c :: _ => return .code c.toNat
  | [] => return .code 0

/-- The members of a set up to its closing bracket, latest first. The first argument bounds the number
of tokens; `start` is the place of the opening bracket. -/
def parseSetMembers (start : Nat) : Nat → List SetMember → Parser (List SetMember)
  | 0, _ => failAt .unterminatedSet start
  | fuel + 1, members => do
    match ← next? with
    | none => failAt .unterminatedSet start
    | some token =>
      if token == [']'] && !members.isEmpty then return members
      else
        let lower ← parseSetEnd token
        if ← accept '-' then
          match ← next? with
          | none => failAt .unterminatedSet start
          | some [']'] => return .code 45 :: lower :: members
          | some other =>
            let upper ← parseSetEnd other
            let refuse : Parser (List SetMember) :=
              failBack (.badRange (String.ofList token) (String.ofList other))
                (token.length + 1 + other.length)
            match lower, upper with
            | .code a, .code b =>
              if b < a then refuse else parseSetMembers start fuel (.range a b :: members)
            | _, _ => refuse
        else parseSetMembers start fuel (lower :: members)

/-- A set after its opening bracket. A set of one character is that character. -/
def parseSet (start : Nat) : Parser Item := do
  let negated ← accept '^'
  let members ← parseSetMembers start ((← get).reader.tokens.length + 1) []
  match members.reverse.eraseDups, negated with
  | [.code c], false => return .literal c
  | [.code c], true => return .notLiteral c
  | members, negated => return .set negated members

/-- The bounds of a quantifier, if the token and what follows it are one. Braces that do not hold bounds
are no quantifier, and nothing after the opening brace is passed over. -/
def parseBounds? (c : Char) : Parser (Option (Nat × Option Nat)) := do
  if c == '?' then return some (0, some 1)
  else if c == '*' then return some (0, none)
  else if c == '+' then return some (1, none)
  else if (← get).reader.nextIs '\x7d' then return none
  else
    let before := (← get).reader
    let count := before.tokens.length
    let lower ← takeWhile (·.isDigit) count
    let upper ← if ← accept ',' then takeWhile (·.isDigit) count else pure lower
    if !(← accept '\x7d') then
      modify fun s => { s with reader := before }
      return none
    else
      let least := valueOf 10 lower
      let greatest := if upper.isEmpty then none else some (valueOf 10 upper)
      if Numeral.digitLimit < lower.length then throw (.tooManyDigits lower.length)
      else if repetitionLimit ≤ least then throw .repetitionTooLarge
      else if Numeral.digitLimit < upper.length then throw (.tooManyDigits upper.length)
      else if greatest.any (repetitionLimit ≤ ·) then throw .repetitionTooLarge
      else if greatest.any (· < least) then failAt .reversedBounds before.place
      else return some (least, greatest)

/-- The item that a quantifier at a place repeats, as the body of a loop. -/
def repeatedBody (place : Nat) : List Item → Parser (List Item)
  | [] => failAt .nothingToRepeat place
  | .anchor _ :: _ => failAt .nothingToRepeat place
  | .loop .. :: _ => failAt .multipleRepeat place
  | .group none [] [] body :: _ => return body
  | item :: _ => return [item]

def parseGreed : Parser Greed := do
  if ← accept '?' then return .reluctant
  else if ← accept '+' then return .possessive
  else return .greedy

/-- The text of a token that was expected to be a flag, given what else might have stood there. -/
def refuseFlag {α : Type} (token : List Char) (otherwise : Fault) : Parser α :=
  let isLetter := match token with
    | [c] => Text.isLetter c.toNat
    | _ => false
  failBack (if isLetter then .unknownFlag else otherwise) token.length

def flagOf? : List Char → Option Flag
  | [c] => Flag.ofLetter? c
  | _ => none

def parseFlagsOn : Nat → FlagSet → Flag → Parser (FlagSet × Char)
  | 0, on, _ => return (on, ')')
  | fuel + 1, on, flag => do
    if flag == .locale then failBack .localeFlag 0
    else
      let on := if on.contains flag then on else on ++ [flag]
      if flag.isClassKind && on.any (fun f => f.isClassKind && f != flag) then
        failBack .incompatibleFlags 0
      else
        match ← next? with
        | none => failBack .missingFlagEnd 0
        | some token =>
          match token, flagOf? token with
          | [')'], _ => return (on, ')')
          | ['-'], _ => return (on, '-')
          | [':'], _ => return (on, ':')
          | _, some flag => parseFlagsOn fuel on flag
          | _, none => refuseFlag token .missingFlagEnd

def parseFlagsOff : Nat → FlagSet → Flag → Parser FlagSet
  | 0, off, _ => return off
  | fuel + 1, off, flag => do
    if flag.isClassKind then failBack .typeFlagOff 0
    else
      let off := if off.contains flag then off else off ++ [flag]
      match ← next? with
      | none => failBack .missingColon 0
      | some [':'] => return off
      | some token =>
        match flagOf? token with
        | some flag => parseFlagsOff fuel off flag
        | none => refuseFlag token .missingColon

/-- Flags after the opening of a group: `none` when they hold for the whole regex, else the flags turned
on and off for the group. -/
def parseFlags (first : Option Flag) : Parser (Option (FlagSet × FlagSet)) := do
  let fuel := (← get).reader.tokens.length + 1
  let (on, stop) ← match first with
    | some flag => parseFlagsOn fuel [] flag
    | none => pure ([], '-')
  if stop == ')' then
    modify fun s => { s with flags := s.flags ++ on.filter (!s.flags.contains ·) }
    return none
  else if on.any Flag.isGlobal then failBack .globalFlagOn 1
  else if stop == ':' then return some (on, [])
  else
    let off ← match ← next? with
      | none => failBack .missingFlag 0
      | some token =>
        match flagOf? token with
        | some flag => parseFlagsOff fuel [] flag
        | none => refuseFlag token .missingFlag
    if off.any Flag.isGlobal then failBack .globalFlagOff 1
    else if on.any off.contains then failBack .flagOnAndOff 1
    else return some (on, off)

def namedGroup (name : List Char) : Parser Nat := do
  match (← get).names.lookup (String.ofList name) with
  | some group => return group
  | none => failBack (.unknownGroupName (String.ofList name)) (name.length + 1)

def parseGroupName (terminator : Char) : Parser (List Char) := do
  let name ← takeUntil terminator "group name"
  if Text.isIdentifier name then return name
  else failBack (.badGroupName (String.ofList name)) (name.length + 1)

def parseNamedBackref : Parser Item := do
  let name ← parseGroupName ')'
  let group ← namedGroup name
  match ← closedWidth? group with
  | none => failBack .openGroup (name.length + 1)
  | some (least, greatest) =>
    checkLookbehind group
    return .backref group least greatest

def parseConditionGroup : Parser Nat := do
  let name ← takeUntil ')' "group name"
  let back := name.length + 1
  if Text.isIdentifier name then
    let group ← namedGroup name
    checkLookbehind group
    return group
  else
    match Numeral.readInt name with
    | .ok (.ofNat group) =>
      if group == 0 then failBack .badGroupNumber back
      else if groupLimit ≤ group then failBack (.invalidGroup group) back
      else
        modify fun s =>
          if s.conditionals.any (·.1 == group) then s
          else { s with conditionals := s.conditionals ++ [(group, s.reader.place - back)] }
        checkLookbehind group
        return group
    | _ => failBack (.badGroupName (String.ofList name)) back

def openGroup (name : Option (List Char)) : Parser Nat := do
  let s ← get
  let group := s.widths.size
  match name with
  | none =>
    set { s with widths := s.widths.push none }
    return group
  | some name =>
    let key := String.ofList name
    match s.names.lookup key with
    | some former => failBack (.redefinedGroup key group former) (name.length + 1)
    | none =>
      set { s with widths := s.widths.push none, names := s.names ++ [(key, group)] }
      return group

def closeGroup (group : Nat) (body : List Item) : Parser Unit :=
  modify fun s => { s with widths := s.widths.setIfInBounds group (some (itemsWidth body)) }

def expectClose (start : Nat) : Parser Unit := do
  if !(← accept ')') then failAt .unterminatedGroup start

def skipComment (start : Nat) : Nat → Parser Unit
  | 0 => failAt .unterminatedComment start
  | fuel + 1 => do
    match ← peek? with
    | none => failAt .unterminatedComment start
    | some token =>
      let _ ← next?
      if token == [')'] then return else skipComment start fuel

def skipLine : Nat → Parser Unit
  | 0 => return
  | fuel + 1 => do
    match ← next? with
    | none | some ['\n'] => return
    | some _ => skipLine fuel

/-- What the characters after an opening parenthesis ask for. -/
inductive Opening where
  | group (name : Option (List Char)) (capture : Bool) (atomic : Bool) (on off : FlagSet)
  | look (behind negated : Bool)
  | condition
  | backref (item : Item)
  | comment
  | globalFlags

def parseOpening (start : Nat) : Parser Opening := do
  if !(← accept '?') then return .group none true false [] []
  else
    match ← next? with
    | none => failBack .unexpectedEnd 0
    | some ['P'] =>
      if ← accept '<' then return .group (some (← parseGroupName '>')) true false [] []
      else if ← accept '=' then return .backref (← parseNamedBackref)
      else
        match ← next? with
        | none => failBack .unexpectedEnd 0
        | some token =>
          failBack (.unknownExtension (String.ofList ('P' :: token))) (token.length + 2)
    | some [':'] => return .group none false false [] []
    | some ['#'] =>
      skipComment start ((← get).reader.tokens.length + 1)
      return .comment
    | some ['='] => return .look false false
    | some ['!'] => return .look false true
    | some ['<'] =>
      match ← next? with
      | none => failBack .unexpectedEnd 0
      | some ['='] => return .look true false
      | some ['!'] => return .look true true
      | some token =>
        failBack (.unknownExtension (String.ofList ('<' :: token))) (token.length + 2)
    | some ['('] => return .condition
    | some ['>'] => return .group none false true [] []
    | some token =>
      if token == ['-'] || (flagOf? token).isSome then
        match ← parseFlags (flagOf? token) with
        | none => return .globalFlags
        | some (on, off) => return .group none false false on off
      else failBack (.unknownExtension (String.ofList token)) (token.length + 1)

def isVerboseBlank (token : List Char) : Bool :=
  match token with
  | [c] => Text.isAsciiBlank c.toNat
  | _ => false

/-- What a character at `start` other than an opening parenthesis makes of the items before it, latest
first: a quantifier changes the latest of them. -/
def parseCharacter (start : Nat) (c : Char) (items : List Item) : Parser (List Item) := do
  if c == '[' then return (← parseSet start) :: items
  else if c == '.' then return .anyChar :: items
  else if c == '^' then return .anchor .lineStart :: items
  else if c == '$' then return .anchor .lineEnd :: items
  else if c == '*' || c == '+' || c == '?' || c == '\x7b' then
    match ← parseBounds? c with
    | none => return .literal c.toNat :: items
    | some (least, greatest) =>
      let body ← repeatedBody start items
      let greed ← parseGreed
      return .loop greed least greatest body :: items.tail
  else return .literal c.toNat :: items

def parseToken (start : Nat) (token : List Char) (items : List Item) : Parser (List Item) := do
  match token with
  | [c] => parseCharacter start c items
  | ['\\', c] => return (← parseEscape c) :: items
  | _ => return items

/-- The rest of a conditional that was opened at `start`, given how a branch of it is read. -/
def parseConditional (branch : Parser (List Item)) (start : Nat) : Parser Item := do
  let group ← parseConditionGroup
  let yes := spliceGroups (← branch).reverse
  let no ← if ← accept '|' then
      let no := spliceGroups (← branch).reverse
      if (← get).reader.nextIs '|' then failBack .tooManyBranches 0
      pure no
    else pure []
  expectClose start
  return .conditional group yes no

/-- The rest of a look around that was opened at `start`, given how its body is read. -/
def parseLook (body : Parser (List Item)) (start : Nat) (behind negated : Bool) : Parser Item := do
  let outer := (← get).lookbehindGroups
  if behind && outer.isNone then
    modify fun s => { s with lookbehindGroups := some s.widths.size }
  let body ← body
  if behind && outer.isNone then
    modify fun s => { s with lookbehindGroups := none }
  expectClose start
  return .look behind negated body

/-- The rest of a group that was opened at `start`, given how its body is read. -/
def parseGroup (body : Parser (List Item)) (start : Nat) (name : Option (List Char))
    (capture atomic : Bool) (on off : FlagSet) : Parser Item := do
  let number ← if capture then some <$> openGroup name else pure none
  let body ← body
  expectClose start
  if let some group := number then closeGroup group body
  return if atomic then .atomic body else .group number on off body

mutual

/-- Alternatives separated by bars. The first argument bounds the depth; `top` holds outside any group,
where flags for the whole regex may still change how blanks are read. -/
def parseAlternatives : Nat → (verbose top : Bool) → List (List Item) → Parser (List Item)
  | 0, _, _, read => return joinAlternatives read
  | fuel + 1, verbose, top, read => do
    let items ← parseItems fuel verbose (top && read.isEmpty) []
    let read := read ++ [spliceGroups items.reverse]
    if ← accept '|' then
      let flags := (← get).flags
      let verbose := if top then flags.contains .verbose else verbose
      parseAlternatives fuel verbose top read
    else return joinAlternatives read

/-- Items after each other, latest first, up to a bar, a closing parenthesis or the end. `first` holds
where flags for the whole regex may stand. -/
def parseItems : Nat → (verbose first : Bool) → List Item → Parser (List Item)
  | 0, _, _, items => return items
  | fuel + 1, verbose, first, items => do
    match ← peek? with
    | none | some ['|'] | some [')'] => return items
    | some token =>
      let start := (← get).reader.place
      let _ ← next?
      if verbose && isVerboseBlank token then parseItems fuel verbose first items
      else if verbose && token == ['#'] then
        skipLine ((← get).reader.tokens.length + 1)
        parseItems fuel verbose first items
      else if token == ['('] then
        match ← parseOpening start with
        | .comment => parseItems fuel verbose first items
        | .globalFlags =>
          if !first || !items.isEmpty then failAt .misplacedFlags start
          else
            let verbose := (← get).flags.contains .verbose
            parseItems fuel verbose first items
        | .backref item => parseItems fuel verbose first (item :: items)
        | .condition =>
          let item ← parseConditional (parseItems fuel verbose false []) start
          parseItems fuel verbose first (item :: items)
        | .look behind negated =>
          let item ← parseLook (parseAlternatives fuel verbose false []) start behind negated
          parseItems fuel verbose first (item :: items)
        | .group name capture atomic on off =>
          let inner := (verbose || on.contains .verbose) && !off.contains .verbose
          let item ← parseGroup (parseAlternatives fuel inner false []) start name capture atomic on off
          parseItems fuel verbose first (item :: items)
      else parseItems fuel verbose first (← parseToken start token items)

end

/-- A regex that was read: its items, the flags for the whole of it and its groups. -/
structure Parsed where
  items : List Item
  flags : FlagSet
  groups : Nat
  names : List (String × Nat)

def parseWhole : Parser Parsed := do
  let bound := 2 * (← get).reader.tokens.length + 4
  let items ← parseAlternatives bound false true []
  let s ← get
  if s.flags.contains .ascii && s.flags.contains .unicode then throw .conflictingClasses
  else if s.reader.peek?.isSome then failBack .unbalanced 0
  else
    match s.conditionals.find? (s.widths.size ≤ ·.1) with
    | some (group, place) => failAt (.invalidGroup group) place
    | none =>
      let flags := if s.flags.contains .ascii then s.flags else s.flags ++ [.unicode]
      return ⟨items, flags, s.widths.size - 1, s.names⟩

def parse (text : List Char) : Except CompileError Parsed :=
  match Reader.ofText text with
  | .error e => .error (.ill e)
  | .ok reader => (parseWhole ⟨reader, [], [], #[none], none, []⟩).map Prod.fst

end StackQuery.Regex
