import StackQuery.Run.Request
import StackQuery.Text.Quoted

/-!
# Flags

A flag has one or two names, and takes none, one or two values. A long name may be shortened to any
beginning that no other name has.
-/
namespace StackQuery.CommandLine

inductive Flag where
  | help
  | version
  | report (mode : Mode)
  | threshold
  | maxDepth
  | minPercent
  | frequency
  | rename
  | innermostFirst
  | workers
  | config
  | debug
  | format
  deriving DecidableEq, Repr

namespace Flag

def all : List Flag :=
  [.help, .version] ++ Mode.choices.map .report ++
    [.threshold, .maxDepth, .minPercent, .frequency, .rename, .innermostFirst, .workers, .config,
      .debug, .format]

/-- What the name of a mode adds to the word for its kind. -/
def scopeSuffix : Scope → String
  | .callers => "-callers"
  | .callees => "-callees"
  | _ => ""

def names : Flag → List String
  | .help => ["-h", "--help"]
  | .version => ["--version"]
  | .report mode => ["--" ++ mode.kind.text ++ scopeSuffix mode.scope]
  | .threshold => ["--threshold"]
  | .maxDepth => ["--max-depth"]
  | .minPercent => ["--min-percent"]
  | .frequency => ["--frequency"]
  | .rename => ["--rename"]
  | .innermostFirst => ["--innermost-first"]
  | .workers => ["--workers"]
  | .config => ["-c", "--config"]
  | .debug => ["-d", "--debug"]
  | .format => ["--format"]

def arity : Flag → Nat
  | .threshold | .maxDepth | .minPercent | .frequency | .workers | .config | .format => 1
  | .rename => 2
  | _ => 0

def title (f : Flag) : String := "/".intercalate f.names

def byName : List (String × Flag) := all.flatMap fun f => f.names.map fun name => (name, f)

def ofName? (name : String) : Option Flag := byName.lookup name

def completions (start : String) : List (String × Flag) :=
  byName.filter fun e => start.toList.isPrefixOf e.1.toList

end Flag

inductive UsageError where
  | ambiguous (text : String) (names : List String)
  | tooFewValues (flag : Flag)
  /-- A value is attached to a flag that takes none. -/
  | attachedValue (flag : Flag) (value : String)
  | notInt (flag : Flag) (value : String)
  | notFloat (flag : Flag) (value : String)
  | notChoice (flag : Flag) (value : String) (choices : List String)
  | conflict (flag other : Flag)
  | missingQuery
  | unrecognized (texts : List String)
  deriving DecidableEq, Repr

def complaint (flag : Flag) (what : String) : String := "argument " ++ flag.title ++ ": " ++ what

def UsageError.message : UsageError → String
  | .ambiguous text names =>
    "ambiguous option: " ++ text ++ " could match " ++ ", ".intercalate names
  | .tooFewValues flag =>
    complaint flag (if flag.arity == 1 then "expected one argument"
      else "expected " ++ toString flag.arity ++ " arguments")
  | .attachedValue flag value => complaint flag ("ignored explicit argument " ++ Text.quote value)
  | .notInt flag value => complaint flag ("invalid int value: " ++ Text.quote value)
  | .notFloat flag value => complaint flag ("invalid float value: " ++ Text.quote value)
  | .notChoice flag value choices =>
    complaint flag ("invalid choice: " ++ Text.quote value ++ " (choose from " ++
      ", ".intercalate (choices.map Text.quote) ++ ")")
  | .conflict flag other => complaint flag ("not allowed with argument " ++ other.title)
  | .missingQuery => "the following arguments are required: query"
  | .unrecognized texts => "unrecognized arguments: " ++ " ".intercalate texts

end StackQuery.CommandLine
