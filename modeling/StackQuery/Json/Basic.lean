import StackQuery.Number.Basic

/-!
# JSON values

Objects keep the order of their members; a repeated key keeps its first place and its last value.
-/
namespace StackQuery

/-- A JSON value. Whole numbers and binary data are told apart by how they are written. -/
inductive Json where
  | null
  | bool (value : Bool)
  | number (value : Number)
  | string (value : String)
  | array (values : List Json)
  | object (members : List (String × Json))
  deriving Repr

namespace Json

/-- The members with one more: a known key takes the new value where it stands. -/
def setMember (members : List (String × Json)) (key : String) (value : Json) :
    List (String × Json) :=
  if members.any (·.1 == key) then members.map fun m => if m.1 == key then (key, value) else m
  else members ++ [(key, value)]

def member? (key : String) : Json → Option Json
  | .object members => members.lookup key
  | _ => none

end Json

end StackQuery
