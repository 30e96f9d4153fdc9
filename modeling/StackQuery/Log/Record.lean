import StackQuery.Counts.OrderedMap
import StackQuery.Json.Basic
import StackQuery.Log.Level
import StackQuery.Metrics.Registry
import StackQuery.Version

/-!
# Log records

An event says what happened, how much it matters, and who reports it. A log takes it as it is, with what was bound
to the log. When the line is written, its record adds which program speaks; what an event says of itself stands
before what was bound.
-/
namespace StackQuery.Log

/-- What a field of a record holds. -/
inductive Field where
  | value (json : Json)
  | metrics (registry : Metrics.Registry)

def Field.text (text : String) : Field := .value (.string text)

def Field.int (z : Int) : Field := .value (.number (.int z))

def Field.count (n : Nat) : Field := .int (Int.ofNat n)

structure Event where
  level : Level
  logger : String
  name : String
  fields : List (String × Field)

structure Record where
  format : Format
  level : Level
  event : String
  fields : OrderedMap String Field

def serviceName : String := "stack-focus"

def serviceFields : List (String × Json) :=
  [("service", .string serviceName), ("version", .string version)]

/-- A line of a log, before it is written out. -/
inductive Line where
  | plain (text : String)
  | event (event : Event) (format : Format) (context : List (String × Json))

/-- The record of an event under a context. Of two fields of one name the later stands. -/
def Event.record (e : Event) (format : Format) (context : List (String × Json)) : Record :=
  let bound := context.map fun m => (m.1, Field.value m.2)
  let service := serviceFields.map fun m => (m.1, Field.value m.2)
  let own := [("event", Field.text e.name), ("logger", Field.text e.logger),
    ("level", Field.text e.level.label)]
  ⟨format, e.level, e.name, OrderedMap.ofList (bound ++ e.fields ++ service ++ own)⟩

end StackQuery.Log
