import StackQuery.Yaml.Lexer
import StackQuery.Yaml.Scalar

/-!
# Documents as trees

The tokens of a stream are read as at most one document: a tree of scalars, sequences and mappings, each
with its kind. An alias refers by name to a node that was anchored before; no name is anchored twice.
-/
namespace StackQuery.Yaml

inductive Node where
  | scalar (kind : Kind) (text : String)
  | sequence (kind : Kind) (items : List Node)
  | mapping (kind : Kind) (entries : List (Node × Node))
  | alias (name : String)
  deriving Repr

structure Document where
  root : Node
  anchors : List (String × Node)

structure Builder where
  tokens : List Token
  handles : List (String × String)
  names : List String
  anchors : List (String × Node)

/-- A step of reading; absent if the tokens are no document. -/
abbrev Build := StateT Builder Option

namespace Builder

def peek : Build (Option Token) := do return (← get).tokens.head?

def drop : Build Unit := modify fun s => { s with tokens := s.tokens.tail }

def accept (t : Token) : Build Bool := do
  if (← peek) == some t then
    drop
    return true
  else return false

def expect (t : Token) : Build Unit := do
  if !(← accept t) then failure

def wholeTag (handle : Option String) (suffix : String) : Build String := do
  match handle with
  | none => return suffix
  | some h =>
    match (← get).handles.lookup h with
    | some front => return front ++ suffix
    | none => failure

def takeAnchor : Build (Option String) := do
  match ← peek with
  | some (.anchor name) => do
    drop
    return some name
  | _ => return none

def takeTag : Build (Option (Option String × String)) := do
  match ← peek with
  | some (.tag handle suffix) => do
    drop
    return some (handle, suffix)
  | _ => return none

def takeProperties : Build (Option String × Option String) := do
  let first ← takeAnchor
  let tag ← takeTag
  let anchor ← if first.isNone && tag.isSome then takeAnchor else pure first
  match tag with
  | some (handle, suffix) => return (anchor, some (← wholeTag handle suffix))
  | none => return (anchor, none)

def saysNothing (tag : Option String) : Bool := tag.isNone || tag == some "!"

/-- The kind of a scalar. A plain scalar without a tag takes it from its form. -/
def scalarKind (tag : Option String) (plain : Bool) (text : String) : Kind :=
  match tag with
  | none => if plain then plainKind text else .text
  | some "!" => plainKind text
  | some tag => .ofTag tag

def collectionKind (tag : Option String) (usual : Kind) : Kind :=
  match tag with
  | none => usual
  | some "!" => usual
  | some tag => .ofTag tag

def emptyNode : Node := .scalar .null ""

def addName (anchor : Option String) : Build Unit := do
  match anchor with
  | none => return ()
  | some name =>
    if (← get).names.contains name then failure
    modify fun s => { s with names := name :: s.names }

def keep (anchor : Option String) (node : Node) : Build Unit :=
  match anchor with
  | none => return ()
  | some name => modify fun s => { s with anchors := (name, node) :: s.anchors }

def nextAmong (ts : List Token) : Build Bool := do
  match ← peek with
  | some t => return ts.contains t
  | none => return true

mutual

/-- A node. Block collections are taken where they may stand, and a sequence without indentation of its
own in a mapping. -/
def takeNode : Nat → (block indentless : Bool) → Build Node
  | 0, _, _ => failure
  | fuel + 1, block, indentless => do
    match ← peek with
    | some (.alias name) => do
      drop
      if (← get).names.contains name then return .alias name else failure
    | _ => do
      let (anchor, tag) ← takeProperties
      addName anchor
      let node ← takeContent fuel block indentless anchor tag
      keep anchor node
      return node

def takeContent : Nat → (block indentless : Bool) → (anchor tag : Option String) → Build Node
  | 0, _, _, _, _ => failure
  | fuel + 1, block, indentless, anchor, tag => do
    match ← peek, block, indentless with
    | some .blockEntry, _, true =>
      return .sequence (collectionKind tag .sequence) (← takeIndentless fuel)
    | some (.scalar text plain), _, _ => do
      drop
      return .scalar (scalarKind tag plain text) text
    | some .flowSequenceStart, _, _ => do
      drop
      return .sequence (collectionKind tag .sequence) (← takeFlowItems fuel true)
    | some .flowMappingStart, _, _ => do
      drop
      return .mapping (collectionKind tag .mapping) (← takeFlowEntries fuel true)
    | some .blockSequenceStart, true, _ => do
      drop
      return .sequence (collectionKind tag .sequence) (← takeBlockItems fuel)
    | some .blockMappingStart, true, _ => do
      drop
      return .mapping (collectionKind tag .mapping) (← takeBlockEntries fuel)
    | _, _, _ =>
      if anchor.isSome || tag.isSome then
        return .scalar (if saysNothing tag then .null else .ofTag (tag.getD "")) ""
      else failure

def takeBlockItems : Nat → Build (List Node)
  | 0 => failure
  | fuel + 1 => do
    if ← accept .blockEntry then
      let item ← if ← nextAmong [.blockEntry, .blockEnd] then pure emptyNode
        else takeNode fuel true false
      return item :: (← takeBlockItems fuel)
    else
      expect .blockEnd
      return []

/-- The items of a sequence at the indentation of the mapping around it. -/
def takeIndentless : Nat → Build (List Node)
  | 0 => failure
  | fuel + 1 => do
    if ← accept .blockEntry then
      let item ← if ← nextAmong [.blockEntry, .key, .value, .blockEnd] then pure emptyNode
        else takeNode fuel true false
      return item :: (← takeIndentless fuel)
    else return []

def takeBlockPart : Nat → Build Node
  | 0 => failure
  | fuel + 1 => do
    if ← nextAmong [.key, .value, .blockEnd] then return emptyNode
    takeNode fuel true true

def takeBlockEntries : Nat → Build (List (Node × Node))
  | 0 => failure
  | fuel + 1 => do
    if ← accept .key then
      let key ← takeBlockPart fuel
      let value ← if ← accept .value then takeBlockPart fuel else pure emptyNode
      return (key, value) :: (← takeBlockEntries fuel)
    else
      expect .blockEnd
      return []

/-- A key or a value in a flow collection, empty before some tokens. -/
def takeFlowPart : Nat → List Token → Build Node
  | 0, _ => failure
  | fuel + 1, ends => do
    if ← nextAmong ends then return emptyNode
    takeNode fuel false false

/-- The items of a flow sequence. An item with a key is a mapping of one entry. -/
def takeFlowItems : Nat → (first : Bool) → Build (List Node)
  | 0, _ => failure
  | fuel + 1, first => do
    if ← accept .flowSequenceEnd then return []
    if !first then expect .flowEntry
    if ← accept .key then
      let key ← takeFlowPart fuel [.value, .flowEntry, .flowSequenceEnd]
      let value ← if ← accept .value then takeFlowPart fuel [.flowEntry, .flowSequenceEnd]
        else pure emptyNode
      return .mapping .mapping [(key, value)] :: (← takeFlowItems fuel false)
    else if ← accept .flowSequenceEnd then return []
    else
      let item ← takeNode fuel false false
      return item :: (← takeFlowItems fuel false)

/-- The entries of a flow mapping. A node without a colon is a key without a value. -/
def takeFlowEntries : Nat → (first : Bool) → Build (List (Node × Node))
  | 0, _ => failure
  | fuel + 1, first => do
    if ← accept .flowMappingEnd then return []
    if !first then expect .flowEntry
    if ← accept .key then
      let key ← takeFlowPart fuel [.value, .flowEntry, .flowMappingEnd]
      let value ← if ← accept .value then takeFlowPart fuel [.flowEntry, .flowMappingEnd]
        else pure emptyNode
      return (key, value) :: (← takeFlowEntries fuel false)
    else if ← accept .flowMappingEnd then return []
    else
      let key ← takeNode fuel false false
      return (key, emptyNode) :: (← takeFlowEntries fuel false)

end

def usualHandles : List (String × String) := [("!", "!"), ("!!", Kind.commonTag)]

/-- The directives before a document: one version at most, of the first major number, and each handle
once. Gives the handles. -/
def takeDirectives : Nat → (version : Bool) → List (String × String) → Build (List (String × String))
  | 0, _, _ => failure
  | fuel + 1, version, handles => do
    match ← peek with
    | some (.directive (.version major)) => do
      if version || major != 1 then failure
      drop
      takeDirectives fuel true handles
    | some (.directive (.tag handle front)) => do
      if (handles.lookup handle).isSome then failure
      drop
      takeDirectives fuel version ((handle, front) :: handles)
    | some (.directive .reserved) => do
      drop
      takeDirectives fuel version handles
    | _ => return handles

def isDirective : Option Token → Bool
  | some (.directive _) => true
  | _ => false

def dropEnds : Nat → Build Unit
  | 0 => return ()
  | fuel + 1 => do
    if ← accept .documentEnd then dropEnds fuel

def takeDocument (fuel : Nat) : Build (Option Node) := do
  let front ← peek
  if front.isNone then return none
  let root ← if isDirective front || front == some .documentStart then do
      let handles ← takeDirectives fuel false []
      modify fun s => { s with handles := handles ++ usualHandles }
      expect .documentStart
      let following ← peek
      if isDirective following then pure emptyNode
      else if ← nextAmong [.documentStart, .documentEnd] then pure emptyNode
      else takeNode fuel true false
    else takeNode fuel true false
  dropEnds fuel
  if (← peek).isSome then failure
  return some root

end Builder

/-- The document of a text; a text without one is empty. -/
def read (text : String) : Option (Option Document) := do
  let ts ← tokens text
  let (root, s) ← (Builder.takeDocument (4 * ts.length + 8)).run ⟨ts, Builder.usualHandles, [], []⟩
  return root.map fun root => ⟨root, s.anchors⟩

end StackQuery.Yaml
