import StackQuery.Text.Case
import StackQuery.Text.Quoted

/-!
# Levels and formats of a log

A log leaves out the events below its level, and writes the others in its format.
-/
namespace StackQuery.Log

inductive Level where
  | debug
  | info
  | warning
  | error
  | critical
  deriving DecidableEq, Repr

def Level.all : List Level := [.debug, .info, .warning, .error, .critical]

def Level.word : Level → String
  | .debug => "DEBUG"
  | .info => "INFO"
  | .warning => "WARNING"
  | .error => "ERROR"
  | .critical => "CRITICAL"

def Level.label : Level → String
  | .debug => "debug"
  | .info => "info"
  | .warning => "warning"
  | .error => "error"
  | .critical => "critical"

def Level.rank : Level → Nat
  | .debug => 0
  | .info => 1
  | .warning => 2
  | .error => 3
  | .critical => 4

inductive Format where
  | json
  | console
  deriving DecidableEq, Repr

def Format.all : List Format := [.json, .console]

def Format.word : Format → String
  | .json => "json"
  | .console => "console"

/-- A word that asks for nothing a log knows. -/
inductive UnknownWord where
  | level (word : String)
  | format (word : String)
  deriving DecidableEq, Repr

def UnknownWord.message : UnknownWord → String
  | .level word => Text.quote word ++ " is not a valid LogLevel"
  | .format word => Text.quote word ++ " is not a valid LogFormat"

def Level.ofWord (word : String) : Except UnknownWord Level :=
  let word := Text.uppercase word
  match Level.all.find? (·.word == word) with
  | some level => .ok level
  | none => .error (.level word)

def Format.ofWord (word : String) : Except UnknownWord Format :=
  let word := Text.lowercase word
  match Format.all.find? (·.word == word) with
  | some format => .ok format
  | none => .error (.format word)

end StackQuery.Log
