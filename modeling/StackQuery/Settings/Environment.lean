import StackQuery.Counts.OrderedMap
import StackQuery.Json.Reader
import StackQuery.Settings.Load
import StackQuery.Settings.Raw

/-!
# Settings from the environment

A variable named for a setting gives its value, without regard to case. Lists and records are given as
JSON; a member of a record may also have a variable of its own, named by the path to it.
-/
namespace StackQuery.Settings

/-- What a setting looks like, as far as its variables are concerned. -/
inductive Shape where
  | simple
  | list (item : Shape)
  | record (fields : List (String × Shape))

namespace Shape

def rule : Shape := record [("pattern", simple), ("replacement", simple)]

def logging : Shape :=
  record [("level", simple), ("format", simple), ("file", record [("enabled", simple), ("path", simple)])]

def report : Shape := record [("max_depth", simple), ("min_percent", simple), ("frequency", simple)]

def runtime : Shape := record [("workers", simple), ("chunk_size", simple)]

def settings : List (String × Shape) :=
  [("threshold", simple), ("innermost_first", simple), ("rename", list rule), ("logging", logging),
    ("report", report), ("runtime", runtime)]

def isComplex : Shape → Bool
  | simple => false
  | _ => true

end Shape

def variablePrefix : String := "stack_focus_"

def pathSeparator : String := "__"

def Shape.field? (name : String) : Shape → Option Shape
  | .simple => none
  | .list item => item.field? name
  | .record fields => (fields.find? fun f => f.1 == name || variablePrefix ++ f.1 == name).map Prod.snd

def Shape.at? (path : List String) (shape : Shape) : Option Shape :=
  path.foldlM (fun s name => s.field? name) shape

/-- Sets the member at the end of a path; a value in its way stays. -/
def insertAt : (path : List String) → (name : String) → Raw → List (String × Raw) → List (String × Raw)
  | [], name, value, members => Raw.setMember name value members
  | step :: rest, name, value, members =>
    match members.lookup step with
    | none => Raw.setMember step (.record (insertAt rest name value [])) members
    | some (.record inner) => Raw.setMember step (.record (insertAt rest name value inner)) members
    | some _ => members

def readJson (setting text : String) : Except UnreadableVariable Raw :=
  match Json.read? text with
  | some json => .ok (.ofJson json)
  | none => .error ⟨setting⟩

def memberValue (setting : String) (shape : Option Shape) (text : String) :
    Except UnreadableVariable Raw :=
  if (shape.map Shape.isComplex).getD false && text != "" then readJson setting text
  else .ok (.text text)

def membersFrom (setting : String) (shape : Shape) (env : Environment) :
    Except UnreadableVariable (List (String × Raw)) :=
  let front := (variablePrefix ++ setting ++ pathSeparator).toList
  env.foldlM (fun members (name, text) =>
    if front.isPrefixOf name.toList then do
      let path := (String.ofList (name.toList.drop front.length)).splitOn pathSeparator
      let value ← memberValue setting (shape.at? path) text
      return insertAt path.dropLast (path.getLast?.getD "") value members
    else return members) []

/-- The members by the names of their fields, found without regard to case. -/
def alignMembers (fields : List (String × Shape)) :
    List (String × Raw) → (done : List (String × Raw)) → List (String × Raw)
  | [], done => done
  | (name, value) :: rest, done =>
    match fields.find? fun f => f.1 == Text.lowercase name, value with
    | some (field, .record inner), .record members =>
      alignMembers fields rest (Raw.setMember field (.record (alignMembers inner members [])) done)
    | some (field, _), value => alignMembers fields rest (Raw.setMember field value done)
    | none, value => alignMembers fields rest (Raw.setMember name value done)

def align (shape : Shape) (value : Raw) : Raw :=
  match shape, value with
  | .record fields, .record members => .record (alignMembers fields members [])
  | _, value => value

def settingFrom (vars : OrderedMap String String) (setting : String) (shape : Shape) :
    Except UnreadableVariable (Option Raw) := do
  let text := vars.get? (variablePrefix ++ setting)
  if !shape.isComplex then return text.map .text
  match text with
  | some text =>
    match ← readJson setting text with
    | .null => return none
    | .record members =>
      let own ← membersFrom setting shape vars.entries
      return some (align shape (.record (Raw.overlayMembers own members)))
    | value => return some value
  | none =>
    match ← membersFrom setting shape vars.entries with
    | [] => return none
    | members => return some (align shape (.record members))

def fromEnvironment (env : Environment) : Except UnreadableVariable (List (String × Raw)) := do
  let vars := OrderedMap.ofList (env.map fun v => (Text.lowercase v.1, v.2))
  let found ← Shape.settings.mapM fun (name, shape) => do
    return (← settingFrom vars name shape).map fun value => (name, value)
  return found.filterMap id

end StackQuery.Settings
