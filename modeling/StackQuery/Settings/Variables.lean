/-!
# Variables in a text

A reference is a dollar sign and a name in braces; the name is everything up to the first closing brace,
and not empty. References are replaced from left to right, and what replaces them is not looked at
again.
-/
namespace StackQuery.Settings

abbrev Environment := List (String × String)

/-- A reference to a variable that is not set. -/
structure MissingVariable where
  name : String
  deriving DecidableEq, Repr

def MissingVariable.message (e : MissingVariable) : String :=
  "Environment variable " ++ e.name ++ " not found"

def referenceName? : List Char → Option (List Char)
  | '\x7b' :: more =>
    let name := more.takeWhile (· != '\x7d')
    if !name.isEmpty && name.length < more.length then some name else none
  | _ => none

def substituteFrom (env : Environment) :
    (skip : Nat) → List Char → Except MissingVariable (List Char)
  | _, [] => .ok []
  | skip + 1, _ :: rest => substituteFrom env skip rest
  | 0, c :: rest =>
    match if c = '$' then referenceName? rest else none with
    | some name =>
      match env.lookup (String.ofList name) with
      | some value => (substituteFrom env (name.length + 2) rest).map (value.toList ++ ·)
      | none => .error ⟨String.ofList name⟩
    | none => (substituteFrom env 0 rest).map (c :: ·)

def substitute (env : Environment) (text : String) : Except MissingVariable String :=
  (substituteFrom env 0 text.toList).map String.ofList

theorem substituteFrom_nil (env : Environment) (skip : Nat) :
    substituteFrom env skip [] = .ok [] := by
  cases skip <;> rfl

end StackQuery.Settings
