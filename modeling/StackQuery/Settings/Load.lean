import StackQuery.Regex.Fault
import StackQuery.Settings.Basic
import StackQuery.Settings.Issue
import StackQuery.Settings.Variables
import StackQuery.Text.Lines
import StackQuery.Text.Utf8
import StackQuery.Yaml.Value

/-!
# Loading settings

Settings come from a document, if one is given, laid over what the environment gives, laid over the
defaults. References to variables in the text of the document are replaced before it is read. How a text is read as
a document, and how settings are made of its members under an environment, is up to a loader.
-/
namespace StackQuery.Settings

/-- A setting whose variable holds no JSON. -/
structure UnreadableVariable where
  setting : String
  deriving DecidableEq, Repr

def UnreadableVariable.message (e : UnreadableVariable) : String :=
  "error parsing value for field \"" ++ e.setting ++ "\" from source \"EnvSettingsSource\""

/-- What breaks off the making of settings. -/
inductive Breakage where
  | variable (error : UnreadableVariable)
  /-- A regex that is refused for a reason other than its form. -/
  | regex (error : Regex.CompileError)
  /-- A member with the name of a parameter that is no setting. -/
  | parameter (name : String)
  | other (message : String)
  deriving DecidableEq, Repr

def Breakage.message : Breakage → String
  | .variable error => error.message
  | .regex error => error.message
  | .parameter name => "got multiple values for argument " ++ Text.quote name
  | .other message => message

/-- Why no settings can be made of members. -/
inductive MakeError where
  | invalid (issues : List Issue)
  | broken (cause : Breakage)
  deriving DecidableEq, Repr

/-- A reader of documents, and a maker of settings that checks what it is given. -/
structure Loader where
  read : String → Except Yaml.Fault Yaml.Value
  make : Environment → List (String × Yaml.Value) → Except MakeError Settings

inductive LoadError where
  | notFound (path : String)
  | unopened (error : Files.FileError)
  | notText (error : Utf8.Ill)
  | missingVariable (error : MissingVariable)
  | document (path : String) (fault : Yaml.Fault)
  | notMapping (path : String)
  | keyNotText
  | invalid (path : Option String) (issues : List Issue)
  | broken (cause : Breakage)
  deriving DecidableEq, Repr

namespace LoadError

def isSettingsFault : LoadError → Bool
  | missingVariable _ => true
  | document _ .ill => true
  | notMapping _ => true
  | invalid .. => true
  | _ => false

def message : LoadError → String
  | notFound path => "Configuration file not found: " ++ path
  | unopened error => error.message
  | notText error => error.message
  | missingVariable error => error.message
  | document path .ill => "Invalid YAML in " ++ path ++ ": " ++ Yaml.Fault.message .ill
  | document _ fault => fault.message
  | notMapping path => "Configuration in " ++ path ++ " must be a mapping"
  | keyNotText => "keywords must be strings"
  | invalid (some path) issues =>
    "Invalid configuration in " ++ path ++ ": " ++ toString issues.length ++ " issues"
  | invalid none issues => "Invalid configuration: " ++ toString issues.length ++ " issues"
  | broken cause => cause.message

def ofMake (path : Option String) : MakeError → LoadError
  | .invalid issues => .invalid path issues
  | .broken cause => .broken cause

end LoadError

def memberOf (entry : Yaml.Value × Yaml.Value) : Except LoadError (String × Yaml.Value) :=
  match entry.1 with
  | .text key => .ok (key, entry.2)
  | _ => .error .keyNotText

def membersOf (path : String) : Yaml.Value → Except LoadError (List (String × Yaml.Value))
  | .null => .ok []
  | .mapping entries => entries.mapM memberOf
  | _ => .error (.notMapping path)

namespace Loader

def ofText (l : Loader) (path : String) (env : Environment) (text : String) : Except LoadError Settings := do
  let text ← (substitute env text).mapError .missingVariable
  let value ← (l.read text).mapError (.document path)
  (l.make env (← membersOf path value)).mapError (.ofMake (some path))

def load (l : Loader) (tree : Files.Tree) (env : Environment) (path : Files.Path) : Except LoadError Settings := do
  if !(← (tree.present path).mapError .unopened) then throw (.notFound path.text)
  let content ← (tree.openFile path).mapError .unopened
  let text ← (Utf8.decode content).mapError .notText
  l.ofText path.text env (String.ofList (Text.unifyLineEnds text))

def ofEnvironment (l : Loader) (env : Environment) : Except LoadError Settings :=
  (l.make env []).mapError (.ofMake none)

end Loader

end StackQuery.Settings
