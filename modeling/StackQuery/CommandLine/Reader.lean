import StackQuery.CommandLine.Word
import StackQuery.Log.Record
import StackQuery.Number.Numeral

/-!
# Reading a command line

Words are used from left to right. The first plain word that no flag takes is the query; a plain word
right after it is the input, and no other plain word has a use. Short flags without values may share one
dash. What has no use is collected and refused at the end.
-/
namespace StackQuery.CommandLine

/-- Why no request comes out of a command line. -/
inductive Stop where
  | help
  | version
  | usage (error : UsageError)
  deriving DecidableEq, Repr

/-- What was read of a command line. -/
structure Draft where
  request : Request
  hasQuery : Bool
  unused : List String

namespace Draft

def empty : Draft := ⟨.ofQuery "", false, []⟩

def leave (d : Draft) (text : String) : Draft := { d with unused := d.unused ++ [text] }

def name (d : Draft) (query : String) (input : Option String) : Draft :=
  { d with
    request := { d.request with query, input := input.getD d.request.input }
    hasQuery := true }

end Draft

/-- The flags that one word gives: those without a value, then one that takes values, if any, with the
value attached to it. -/
structure Spread where
  bare : List Flag
  last : Option (Flag × Option String)
  /-- What is left of the word when a letter in it is no flag. -/
  unused : Option String
  deriving DecidableEq, Repr

def attachedSize : Option Attached → Nat
  | none => 0
  | some a => a.text.length + 1

def attachedWithin : List Char → Option Attached
  | [] => none
  | '=' :: value => some ⟨value, true⟩
  | text => some ⟨text, false⟩

theorem attachedSize_within_le (text : List Char) :
    attachedSize (attachedWithin text) ≤ text.length + 1 := by
  unfold attachedWithin
  split <;> simp [attachedSize]

def spread (flag : Flag) (short : Bool) (attached : Option Attached) : Except UsageError Spread :=
  match attached with
  | none => .ok ⟨[], some (flag, none), none⟩
  | some ⟨text, signed⟩ =>
    match flag.arity, text with
    | 0, letter :: rest =>
      if !short || signed || letter == '-' then
        .error (.attachedValue flag (String.ofList (letter :: rest)))
      else
        match Flag.ofName? (String.ofList ['-', letter]) with
        | none => .ok ⟨[flag], none, some (String.ofList ('-' :: letter :: rest))⟩
        | some next =>
          (spread next true (attachedWithin rest)).map fun s => { s with bare := flag :: s.bare }
    | 0, [] => .error (.attachedValue flag "")
    | 1, text => .ok ⟨[], some (flag, some (String.ofList text)), none⟩
    | _, _ => .error (.tooFewValues flag)
  termination_by attachedSize attached
  decreasing_by exact Nat.lt_succ_of_le (attachedSize_within_le rest)

def intValue (flag : Flag) (value : String) : Except UsageError Int :=
  (Numeral.readInt value.toList).mapError fun _ => .notInt flag value

def floatValue (flag : Flag) (value : String) : Except UsageError Binary64 :=
  match Numeral.readFloat? value.toList with
  | some x => .ok x
  | none => .error (.notFloat flag value)

def formatValue (flag : Flag) (value : String) : Except UsageError Log.Format :=
  match Log.Format.all.find? (·.word == value) with
  | some format => .ok format
  | none => .error (.notChoice flag value (Log.Format.all.map Log.Format.word))

def setFlag (r : Request) (flag : Flag) (values : List String) : Except Stop Request :=
  match flag, values with
  | .help, _ => .error .help
  | .version, _ => .error .version
  | .report mode, _ =>
    match r.mode with
    | some other =>
      if other = mode then .ok r else .error (.usage (.conflict flag (.report other)))
    | none => .ok { r with mode := some mode }
  | .innermostFirst, _ => .ok { r with innermostFirst := true }
  | .debug, _ => .ok { r with debug := true }
  | .threshold, [v] => (intValue flag v).mapError .usage |>.map fun n => { r with threshold := some n }
  | .maxDepth, [v] => (intValue flag v).mapError .usage |>.map fun n => { r with maxDepth := some n }
  | .workers, [v] => (intValue flag v).mapError .usage |>.map fun n => { r with workers := some n }
  | .minPercent, [v] =>
    (floatValue flag v).mapError .usage |>.map fun x => { r with minPercent := some x }
  | .frequency, [v] =>
    (floatValue flag v).mapError .usage |>.map fun x => { r with frequency := some x }
  | .config, [v] => .ok { r with config := some (.ofText v) }
  | .format, [v] => (formatValue flag v).mapError .usage |>.map fun f => { r with format := some f }
  | .rename, [pattern, replacement] => .ok { r with rename := r.rename ++ [(pattern, replacement)] }
  | flag, _ => .error (.usage (.tooFewValues flag))

def Draft.set (d : Draft) (flag : Flag) (values : List String) : Except Stop Draft :=
  (setFlag d.request flag values).map fun request => { d with request }

def leadingValues : Nat → List Word → Option (List String)
  | 0, _ => some []
  | n + 1, .plain text :: rest => (leadingValues n rest).map (text :: ·)
  | _, _ => none

def dropTerminator : List Word → List Word
  | .terminator :: rest => rest
  | words => words

theorem length_dropTerminator_le (words : List Word) :
    (dropTerminator words).length ≤ words.length := by
  unfold dropTerminator
  split <;> simp

/-- The input right after the query, and the words after it. A pair of dashes is no input. -/
def inputAfter (words : List Word) : Option String × List Word :=
  match dropTerminator words with
  | .plain text :: rest =>
    (if text == terminatorText then none else some text, dropTerminator rest)
  | words => (none, words)

theorem length_inputAfter_le (words : List Word) : (inputAfter words).2.length ≤ words.length := by
  have h := length_dropTerminator_le words
  unfold inputAfter
  split
  · rename_i text rest heq
    have := length_dropTerminator_le rest
    rw [heq] at h
    simp only [List.length_cons] at h
    exact Nat.le_trans this (Nat.le_of_succ_le h)
  · exact h

/-- What the flags of a word do, with the words after it: the draft, and how many words were taken. -/
def Draft.spreadInto (d : Draft) (s : Spread) (rest : List Word) : Except Stop (Draft × Nat) := do
  let values ← match s.last with
    | none => pure none
    | some (flag, some value) => pure (some (flag, [value], 0))
    | some (flag, none) =>
      match leadingValues flag.arity rest with
      | some values => pure (some (flag, values, flag.arity))
      | none => throw (.usage (.tooFewValues flag))
  let d : Draft := match s.unused with
    | some text => d.leave text
    | none => d
  let d ← s.bare.foldlM (fun d flag => d.set flag []) d
  match values with
  | none => return (d, 0)
  | some (flag, values, taken) => return (← d.set flag values, taken)

def readWords (words : List Word) (d : Draft) : Except Stop Draft :=
  match words with
  | [] => .ok d
  | .flag flag short attached :: rest => do
    let s ← (spread flag short attached).mapError .usage
    let (d, taken) ← d.spreadInto s rest
    readWords (rest.drop taken) d
  | .unknown text :: rest => readWords rest (d.leave text)
  | .plain text :: rest =>
    if d.hasQuery then readWords rest (d.leave text)
    else readWords (inputAfter rest).2 (d.name text (inputAfter rest).1)
  | .terminator :: .plain text :: rest =>
    if d.hasQuery then readWords (.plain text :: rest) (d.leave terminatorText)
    else readWords (inputAfter rest).2 (d.name text (inputAfter rest).1)
  | .terminator :: rest => readWords rest (d.leave terminatorText)
  termination_by words.length
  decreasing_by
    all_goals simp only [List.length_cons, List.length_drop]
    all_goals have := length_inputAfter_le rest
    all_goals omega

def Draft.finish (d : Draft) : Except Stop Request :=
  if !d.hasQuery then .error (.usage .missingQuery)
  else if !d.unused.isEmpty then .error (.usage (.unrecognized d.unused))
  else .ok d.request

def read (arguments : List String) : Except Stop Request := do
  let words ← (words arguments).mapError .usage
  (← readWords words .empty).finish

def programName : String := Log.serviceName

def versionText : String := programName ++ " " ++ version ++ "\n"

def helpText : String :=
  "usage: " ++ programName ++ " [options] query [input]\n\noptions:\n" ++
    String.join (Flag.all.map fun f => "  " ++ ", ".intercalate f.names ++ "\n")

def UsageError.text (e : UsageError) : String := programName ++ ": error: " ++ e.message ++ "\n"

def usageExit : Nat := 2

def Stop.exitCode : Stop → Nat
  | .help | .version => 0
  | .usage _ => usageExit

end StackQuery.CommandLine
