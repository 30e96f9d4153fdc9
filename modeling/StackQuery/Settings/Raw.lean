import StackQuery.Json.Basic
import StackQuery.Yaml.Value

/-!
# Values before they are checked

Settings come as values of a document, of JSON texts, or as plain texts. A record keeps its members in
order; laying one record over another replaces members, except that two records are merged.
-/
namespace StackQuery.Settings

/-- A value that is still to be checked. -/
inductive Raw where
  | null
  | bool (value : Bool)
  | number (value : Number)
  | text (value : String)
  | bytes (content : List UInt8)
  | list (items : List Raw)
  | record (members : List (String × Raw))
  | other
  deriving Repr

namespace Raw

mutual

def ofJson : Json → Raw
  | .null => .null
  | .bool b => .bool b
  | .number x => .number x
  | .string s => .text s
  | .array values => .list (ofJsonList values)
  | .object members => .record (ofJsonMembers members)

def ofJsonList : List Json → List Raw
  | [] => []
  | v :: rest => ofJson v :: ofJsonList rest

def ofJsonMembers : List (String × Json) → List (String × Raw)
  | [] => []
  | (key, v) :: rest => (key, ofJson v) :: ofJsonMembers rest

end

mutual

/-- A value of a document. Inside, entries whose keys are no texts cannot be members and fall away. -/
def ofYaml : Yaml.Value → Raw
  | .null => .null
  | .bool b => .bool b
  | .number x => .number x
  | .text s => .text s
  | .bytes content => .bytes content
  | .list items => .list (ofYamlList items)
  | .set items => .list (ofYamlList items)
  | .mapping entries => .record (ofYamlEntries entries)
  | .other => .other

def ofYamlList : List Yaml.Value → List Raw
  | [] => []
  | v :: rest => ofYaml v :: ofYamlList rest

def ofYamlEntries : List (Yaml.Value × Yaml.Value) → List (String × Raw)
  | [] => []
  | (.text key, v) :: rest => (key, ofYaml v) :: ofYamlEntries rest
  | _ :: rest => ofYamlEntries rest

end

/-- The members with one more: a known name takes the new value where it stands. -/
def setMember (name : String) (value : Raw) : List (String × Raw) → List (String × Raw)
  | [] => [(name, value)]
  | m :: rest => if m.1 = name then (name, value) :: rest else m :: setMember name value rest

mutual

def overlay : (upper lower : Raw) → Raw
  | .record members, .record below => .record (overlayMembers members below)
  | upper, _ => upper

def overlayMembers : (upper lower : List (String × Raw)) → List (String × Raw)
  | [], below => below
  | (name, value) :: rest, below =>
    let value := match below.lookup name with
      | some former => overlay value former
      | none => value
    overlayMembers rest (setMember name value below)

end

end Raw

end StackQuery.Settings
