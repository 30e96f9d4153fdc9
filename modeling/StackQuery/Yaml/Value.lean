import StackQuery.Text.Utf8
import StackQuery.Yaml.Node

/-!
# The values of a document

Each node stands for a value of its kind. Entries that a mapping takes over come before its own; of two
entries with one key the later stands, at the place of the earlier. An anchored node may contain itself;
its values are unfolded to a depth beyond which nobody looks. Every node is checked, however deep.
-/
namespace StackQuery.Yaml

inductive Value where
  | null
  | bool (value : Bool)
  | number (value : Number)
  | text (value : String)
  | bytes (content : List UInt8)
  | list (items : List Value)
  | mapping (entries : List (Value × Value))
  | set (items : List Value)
  /-- A date, or a pair of a list of pairs. -/
  | other
  deriving Repr

namespace Value

def sameKey : Value → Value → Bool
  | .null, .null => true
  | .bool a, .bool b => a == b
  | .number a, .number b => a.compare? b == some .eq
  | .text a, .text b => a == b
  | .bytes a, .bytes b => a == b
  | _, _ => false

def isKey : Value → Bool
  | .list _ => false
  | .mapping _ => false
  | .set _ => false
  | _ => true

/-- The entries with one more: a known key takes the new value where it stands. -/
def setEntry (key value : Value) : List (Value × Value) → List (Value × Value)
  | [] => [(key, value)]
  | e :: rest => if e.1.sameKey key then (e.1, value) :: rest else e :: setEntry key value rest

def ofScalar (kind : Kind) (text : String) : Except Fault Value :=
  match kind with
  | .null => .ok .null
  | .bool => (readBool text).map .bool
  | .int => (readInt text).map fun z => .number (.int z)
  | .float => (readFloat text).map fun x => .number (.float x)
  | .text => .ok (.text text)
  | .binary =>
    if text.toList.all (·.toNat < 128) then
      match readBase64 [] 0 text.toList with
      | some content => .ok (.bytes content)
      | none => .error .ill
    else .error .ill
  | .timestamp => (checkDate text).map fun _ => .other
  | _ => .error .ill

end Value

namespace Node

/-- The node that an alias stands for; any other node stands for itself. -/
def resolve (anchors : List (String × Node)) : Node → Node
  | .alias name => (anchors.lookup name).getD (.scalar .null "")
  | node => node

def isMerge : Node → Bool
  | .scalar .merge _ => true
  | _ => false

def isDefault : Node → Bool
  | .scalar .default _ => true
  | _ => false

/-- The scalar that a node stands for; a mapping stands for its default value. -/
def defaultScalar (anchors : List (String × Node)) : Nat → Node → Option String
  | 0, _ => none
  | fuel + 1, node =>
    match node.resolve anchors with
    | .scalar _ text => some text
    | .mapping _ entries =>
      (entries.find? fun e => (e.1.resolve anchors).isDefault).bind fun e =>
        e.2.defaultScalar anchors fuel
    | _ => none

def flatEntries (anchors : List (String × Node)) : Nat → List (Node × Node) →
    Except Fault (List (Node × Node))
  | 0, entries => .ok (entries.filter fun e => !e.1.isMerge)
  | fuel + 1, entries => do
    let own := entries.filter fun e => !(e.1.resolve anchors).isMerge
    let sources := entries.filter fun e => (e.1.resolve anchors).isMerge
    let merged ← sources.mapM fun e => do
      match e.2.resolve anchors with
      | .mapping _ more => flatEntries anchors fuel more
      | .sequence _ items => do
        let groups ← items.mapM fun item =>
          match item.resolve anchors with
          | .mapping _ more => flatEntries anchors fuel more
          | _ => .error .ill
        return groups.reverse.flatten
      | _ => .error .ill
    return merged.flatten ++ own

/-- The kind of a mapping's key; a default key is text inside a mapping. -/
def keyNode (anchors : List (String × Node)) (node : Node) : Node :=
  match node.resolve anchors with
  | .scalar .default text => .scalar .text text
  | node => node

def depthLimit : Nat := 6

def shallow : Nat := 2

mutual

/-- A node and the nodes inside it whose values are made. A mapping that stands for a scalar uses none
of the others, and of what is taken over only the entries count. -/
def parts : Node → List Node
  | .scalar kind text => [.scalar kind text]
  | .sequence kind items =>
    .sequence kind items :: (if kind == .sequence then partsOfItems items else partsOfPairs items)
  | .mapping kind entries =>
    .mapping kind entries ::
      (if kind == .mapping || kind == .set then partsOfEntries entries else [])
  | .alias _ => []

def partsOfItems : List Node → List Node
  | [] => []
  | item :: rest => item.parts ++ partsOfItems rest

def partsOfEntries : List (Node × Node) → List Node
  | [] => []
  | (key, value) :: rest =>
    (if key.isMerge then value.mergedParts
      else (if key.isDefault then [] else key.parts) ++ value.parts) ++ partsOfEntries rest

def mergedParts : Node → List Node
  | .mapping _ entries => partsOfEntries entries
  | .sequence _ items => mergedPartsOfItems items
  | _ => []

def mergedPartsOfItems : List Node → List Node
  | [] => []
  | item :: rest => item.mergedParts ++ mergedPartsOfItems rest

def partsOfPairs : List Node → List Node
  | [] => []
  | .mapping _ [(key, value)] :: rest => key.parts ++ (value.parts ++ partsOfPairs rest)
  | _ :: rest => partsOfPairs rest

end

mutual

def value (anchors : List (String × Node)) : (depth : Nat) → Node → Except Fault Value
  | 0, _ => .ok .other
  | depth + 1, node =>
    match node.resolve anchors with
    | .alias _ => .ok .other
    | .scalar kind text =>
      match kind with
      | .sequence => .error .ill
      | .mapping => .error .ill
      | kind => Value.ofScalar kind text
    | .sequence kind items => do
      match kind with
      | .sequence => return .list (← items.mapM (value anchors depth))
      | .orderedMap => pairs anchors depth items
      | .pairs => pairs anchors depth items
      | _ => .error .ill
    | .mapping kind entries => do
      match kind with
      | .mapping => return .mapping (← entryValues anchors depth entries)
      | .set => return .set ((← entryValues anchors depth entries).map Prod.fst)
      | .sequence => .error .ill
      | .orderedMap => .error .ill
      | .pairs => .error .ill
      | .unknown => .error .ill
      | .merge => .error .ill
      | .default => .error .ill
      | kind =>
        match defaultScalar anchors depthLimit (.mapping kind entries) with
        | some text => Value.ofScalar kind text
        | none => .error .ill

/-- The entries of a mapping; keys have to be values that may be keys. -/
def entryValues (anchors : List (String × Node)) : (depth : Nat) → List (Node × Node) →
    Except Fault (List (Value × Value))
  | depth, entries => do
    let entries ← flatEntries anchors depthLimit entries
    entries.foldlM (fun done e => do
      let key ← value anchors depth (e.1.keyNode anchors)
      if !key.isKey then throw .ill
      return Value.setEntry key (← value anchors depth e.2) done) []

def pairs (anchors : List (String × Node)) : (depth : Nat) → List Node → Except Fault Value
  | depth, items => do
    let values ← items.mapM fun item => do
      match item.resolve anchors with
      | .mapping _ [(k, v)] => do
        let _ ← value anchors depth k
        let _ ← value anchors depth v
        return Value.other
      | _ => .error .ill
    return .list values

end

end Node

/-- The value of a text; a text without a document is nothing. -/
def load (text : String) : Except Fault Value :=
  match read text with
  | none => .error .ill
  | some none => .ok .null
  | some (some document) => do
    for node in document.root.parts do
      let _ ← node.value document.anchors Node.shallow
    document.root.value document.anchors Node.depthLimit

end StackQuery.Yaml
