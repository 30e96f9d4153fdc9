import StackQuery.Query.Basic
import StackQuery.Regex.Template

/-!
# Rename rules

A rule replaces every match of a regex in a frame name by a template. Building a rule checks that the
template refers to groups of the regex only.
-/
namespace StackQuery

/-- A regex and the template that replaces its matches. -/
structure RenameRule where
  regex : Regex
  replacement : String

inductive RuleError where
  | badRegex (pattern : String) (fault : Regex.Fault)
  | missingGroup (pattern replacement reference : String) (groups : Nat)
  | unknownGroup (replacement reference : String)
  | badNumber (reference : String)
  | tooManyDigits (count : Nat)
  /-- A regex that is refused for a reason other than its form. -/
  | refused (error : Regex.CompileError)
  deriving DecidableEq, Repr

def RuleError.message : RuleError → String
  | .badRegex pattern fault =>
    "Invalid rename regex " ++ Text.quote pattern ++ ": " ++ fault.message
  | .missingGroup pattern replacement reference groups =>
    "Rename template " ++ Text.quote replacement ++ " references group " ++ reference ++ ", but " ++
      Text.quote pattern ++ " has " ++ toString groups
  | .unknownGroup replacement reference =>
    "Rename template " ++ Text.quote replacement ++ " references unknown group " ++
      Text.quote reference
  | .badNumber reference => "invalid literal for int() with base 10: " ++ Text.quote reference
  | .tooManyDigits count => Numeral.digitLimitMessage count
  | .refused error => error.message

def RuleError.ofCompile (pattern : String) : Regex.CompileError → RuleError
  | .ill error => .badRegex pattern error.fault
  | error => .refused error

namespace RenameRule

/-- What a backslash with the text after it stands for, as far as references go: a reference or an
escaped backslash, and how many characters belong to it. -/
def referenceAt? : List Char → Option (Option (List Char) × Nat)
  | '\\' :: _ => some (none, 1)
  | 'g' :: '<' :: more =>
    let name := more.takeWhile (· != '>')
    if name.length < more.length then some (some name, name.length + 3) else none
  | c :: more =>
    if Text.isDecimal c.toNat then
      match more.takeWhile (fun d => Text.isDecimal d.toNat) with
      | d :: _ => some (some [c, d], 2)
      | [] => some (some [c], 1)
    else none
  | [] => none

def referencesAfter : (skip : Nat) → List Char → List (List Char)
  | _, [] => []
  | skip + 1, _ :: rest => referencesAfter skip rest
  | 0, c :: rest =>
    if c == '\\' then
      match referenceAt? rest with
      | some (reference, length) => reference.toList ++ referencesAfter length rest
      | none => referencesAfter 0 rest
    else referencesAfter 0 rest

def references (template : List Char) : List (List Char) := referencesAfter 0 template

def checkReference (regex : Regex) (pattern replacement : String) (reference : List Char) :
    Except RuleError Unit :=
  let text := String.ofList reference
  if !reference.isEmpty && reference.all (Text.isDigit ·.toNat) then
    match Numeral.readInt reference with
    | .ok n =>
      if Int.ofNat regex.groups < n then
        .error (.missingGroup pattern replacement text regex.groups)
      else .ok ()
    | .error .malformed => .error (.badNumber text)
    | .error (.tooManyDigits count) => .error (.tooManyDigits count)
  else if (regex.names.lookup text).isNone then .error (.unknownGroup replacement text)
  else .ok ()

def ofRegex (regex : Regex) (pattern replacement : String) : Except RuleError RenameRule := do
  for reference in references replacement.toList do
    checkReference regex pattern replacement reference
  return ⟨regex, replacement⟩

def compileIn {σ : Type} (compile : String → σ → Except Regex.CompileError Regex × σ)
    (pattern replacement : String) (store : σ) : Except RuleError RenameRule × σ :=
  match compile pattern store with
  | (.ok regex, store) => (ofRegex regex pattern replacement, store)
  | (.error e, store) => (.error (.ofCompile pattern e), store)

def compile [Text.CharNames] (pattern replacement : String) : Except RuleError RenameRule :=
  (compileIn (fun text (_ : Unit) => (Regex.compile text, ())) pattern replacement ()).1

/-- The new name of a frame; absent if the regex is not found in it. -/
def apply (rule : RenameRule) (name : Frame) : Except Regex.TemplateError (Option Frame) :=
  if rule.regex.found name then (rule.regex.substitute rule.replacement name).map some
  else .ok none

theorem apply_of_not_found {rule : RenameRule} {name : Frame} (h : rule.regex.found name = false) :
    rule.apply name = .ok none := by
  simp [apply, h]

end RenameRule

end StackQuery
