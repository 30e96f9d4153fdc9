import StackQuery.Number.Numeral
import StackQuery.Rename.Rule
import StackQuery.Settings.Basic
import StackQuery.Settings.Issue
import StackQuery.Settings.Raw
import StackQuery.Text.Utf8

/-!
# Checking settings

Each kind of value has a reader, which takes other kinds where they say the same: whole numbers from
texts and from data without a fraction, truth values from words. A record is checked member by member;
all issues are collected, in the order of the members that are known, then those that are not.
-/
namespace StackQuery.Settings

variable [Text.CharNames]

open Log (Level Format)

def goodLowLines : List Char → Bool
  | [] => true
  | ['_'] => false
  | '_' :: '_' :: _ => false
  | _ :: rest => goodLowLines rest

/-- A text without its low lines, which have to stand alone and inside. -/
def dropLowLines? (cs : List Char) : Option (List Char) :=
  if cs.head? != some '_' && goodLowLines cs then some (cs.filter (· != '_')) else none

def dropZeroFraction (cs : List Char) : List Char :=
  match cs.dropWhile (· != '.') with
  | _ :: zeros => if zeros.all (· == '0') then cs.takeWhile (· != '.') else cs
  | [] => cs

def intOfText (text : String) : Except Defect Int :=
  let cs := Numeral.trim text.toList
  if Numeral.digitLimit < cs.length then .error .intSize
  else
    let (negative, body) := Numeral.splitSign (dropZeroFraction cs)
    match dropLowLines? body with
    | some ds =>
      if !ds.isEmpty && ds.all Char.isDigit then
        let n := Int.ofNat (Numeral.ofDigits (ds.map fun d => d.toNat - 48))
        .ok (if negative then -n else n)
      else .error .intText
    | none => .error .intText

def plainFloat? (cs : List Char) : Option Binary64 :=
  if cs.all fun c => c.toNat < 128 && !Text.isBlank c && c != '_' then Numeral.readFloat? cs else none

def floatOfText (text : String) : Except Defect Binary64 :=
  let cs := text.toList
  match plainFloat? (Numeral.trim cs) with
  | some x => .ok x
  | none =>
    match (dropLowLines? cs).bind plainFloat? with
    | some x => .ok x
    | none => .error .floatText

def trueWords : List String := ["1", "t", "true", "on", "y", "yes"]

def falseWords : List String := ["0", "f", "false", "off", "n", "no"]

def boolOfText (text : String) : Except Defect Bool :=
  let word := String.ofList (text.toList.map Char.toLower)
  if falseWords.contains word then .ok false
  else if trueWords.contains word then .ok true
  else .error .boolText

def wholeLimit : Int := Int.pow 2 63

def intOfFloat (x : Binary64) : Except Defect Int :=
  if !x.isFinite then .error .notFinite
  else match x.toInt? with
    | some z => if -wholeLimit ≤ z && z < wholeLimit then .ok z else .error .intSize
    | none => .error .fractional

namespace Raw

def words? : Raw → Option (Option String)
  | .text s => some (some s)
  | .bytes content => some ((Utf8.decode content).toOption.map String.ofList)
  | _ => none

def readInt (v : Raw) : Except Defect Int :=
  match v with
  | .number (.int z) => .ok z
  | .number (.float x) => intOfFloat x
  | .bool b => .ok (if b then 1 else 0)
  | v => match v.words? with
    | some (some s) => intOfText s
    | some none => .error .intText
    | none => .error .notInt

def readFloat (v : Raw) : Except Defect Binary64 :=
  match v with
  | .number x => x.toFloat.mapError fun _ => .notFloat
  | .bool b => .ok (Binary64.ofInt (if b then 1 else 0))
  | v => match v.words? with
    | some (some s) => floatOfText s
    | some none => .error .floatText
    | none => .error .notFloat

def readBool (v : Raw) : Except Defect Bool :=
  match v with
  | .bool b => .ok b
  | .number x =>
    if x.compare? (.int 0) == some .eq then .ok false
    else if x.compare? (.int 1) == some .eq then .ok true
    else .error .boolText
  | v => match v.words? with
    | some (some s) => boolOfText s
    | some none => .error .boolText
    | none => .error .notBool

def readText (v : Raw) : Except Defect String :=
  match v.words? with
  | some (some s) => .ok s
  | some none => .error .textBytes
  | none => .error .notText

def readPath : Raw → Except Defect Files.Path
  | .text s => .ok (.ofText s)
  | _ => .error .notPath

def readChoice {α : Type} (choices : List α) (word : α → String) (v : Raw) : Except Defect α :=
  let refusal : Except Defect α := .error (.notAmong (choices.map word))
  match v with
  | .text s => match choices.find? (word · == s) with
    | some choice => .ok choice
    | none => refusal
  | _ => refusal

def readBounded (least : Int) (greatest : Option Int) (v : Raw) : Except Defect Int := do
  let z ← v.readInt
  match greatest with
  | some g => if g < z then throw (.atMost g)
  | none => pure ()
  if z < least then throw (.atLeast least)
  return z

def readOptional {α : Type} (read : Raw → Except Defect α) : Raw → Except Defect (Option α)
  | .null => .ok none
  | v => (read v).map some

/-- A percentage. A datum that is no number is not at most the greatest one. -/
def readPercentage (v : Raw) : Except Defect Binary64 := do
  let x ← v.readFloat
  if !(Number.float x).le (.int 100) then throw (.atMost 100)
  if !(Number.int 0).le (.float x) then throw (.atLeast 0)
  return x

def readFrequency (v : Raw) : Except Defect Binary64 := do
  let x ← v.readFloat
  if !(Number.int 0).lt (.float x) then throw (.above 0)
  return x

end Raw

/-- Checking collects issues. It breaks off at a regex that is refused for a reason other than its
form. -/
abbrev Check := StateT (List Issue) (Except Regex.CompileError)

/-- The members of a record that is being checked, and where it stands. -/
structure Record where
  place : List Step
  members : List (String × Raw)

namespace Check

def issue {α : Type} (place : List Step) (defect : Defect) : Check (Option α) := do
  modify (· ++ [⟨place, defect⟩])
  return none

def value {α : Type} (place : List Step) (result : Except Defect α) : Check (Option α) :=
  match result with
  | .ok a => return some a
  | .error defect => issue place defect

def member {α : Type} (r : Record) (name : String) (default : α) (read : Raw → Except Defect α) :
    Check (Option α) :=
  match r.members.lookup name with
  | some v => value (r.place ++ [.member name]) (read v)
  | none => return some default

def required {α : Type} (r : Record) (name : String) (read : Raw → Except Defect α) :
    Check (Option α) :=
  match r.members.lookup name with
  | some v => value (r.place ++ [.member name]) (read v)
  | none => issue (r.place ++ [.member name]) .missing

def record {α : Type} (place : List Step) (kind : String) (v : Raw) (check : Record → Check (Option α)) :
    Check (Option α) :=
  match v with
  | .record members => check ⟨place, members⟩
  | _ => issue place (.notRecord kind)

def inner {α : Type} (r : Record) (name kind : String) (default : α)
    (check : Record → Check (Option α)) : Check (Option α) :=
  match r.members.lookup name with
  | some v => record (r.place ++ [.member name]) kind v check
  | none => return some default

end Check

open Check

def checkPattern (place : List Step) (pattern : String) : Check (Option String) :=
  match Regex.compile pattern with
  | .ok _ => return some pattern
  | .error e =>
    if e.isOverflow then throw e
    else issue place (.refused (RuleError.ofCompile pattern e).message)

/-- A rename rule. Its template is checked when its members are in order. -/
def checkRule (r : Record) : Check (Option RulePair) := do
  let pattern ← match ← required r "pattern" Raw.readText with
    | some pattern => checkPattern (r.place ++ [.member "pattern"]) pattern
    | none => pure none
  let replacement ← required r "replacement" Raw.readText
  match pattern, replacement with
  | some pattern, some replacement =>
    match RenameRule.compile pattern replacement with
    | .ok _ => return some ⟨pattern, replacement⟩
    | .error e => issue r.place (.refused e.message)
  | _, _ => return none

def checkRules (place : List Step) : Nat → List Raw → Check (Option (List RulePair))
  | _, [] => return some []
  | n, v :: rest => do
    let rule ← record (place ++ [.item n]) "RenameRuleConfig" v checkRule
    let rules ← checkRules place (n + 1) rest
    match rule, rules with
    | some rule, some rules => return some (rule :: rules)
    | _, _ => return none

def checkRename (r : Record) : Check (Option (List RulePair)) :=
  match r.members.lookup "rename" with
  | none => return some []
  | some (.list items) => checkRules (r.place ++ [.member "rename"]) 0 items
  | some _ => issue (r.place ++ [.member "rename"]) .notList

def checkLogFile (r : Record) : Check (Option LogFile) := do
  let enabled ← member r "enabled" LogFile.default.enabled Raw.readBool
  let path ← member r "path" LogFile.default.path Raw.readPath
  match enabled, path with
  | some enabled, some path => return some ⟨enabled, path⟩
  | _, _ => return none

def checkLogging (r : Record) : Check (Option Logging) := do
  let level ← member r "level" Logging.default.level (Raw.readChoice Level.all Level.word)
  let format ← member r "format" Logging.default.format (Raw.readChoice Format.all Format.word)
  let file ← inner r "file" "FileLoggingConfig" LogFile.default checkLogFile
  match level, format, file with
  | some level, some format, some file => return some ⟨level, format, file⟩
  | _, _, _ => return none

def checkReport (r : Record) : Check (Option ReportLimits) := do
  let maxDepth ← member r "max_depth" ReportLimits.default.maxDepth
    (Raw.readOptional (Raw.readBounded 1 none))
  let minPercent ← member r "min_percent" ReportLimits.default.minPercent Raw.readPercentage
  let frequency ← member r "frequency" ReportLimits.default.frequency
    (Raw.readOptional Raw.readFrequency)
  match maxDepth, minPercent, frequency with
  | some maxDepth, some minPercent, some frequency => return some ⟨maxDepth, minPercent, frequency⟩
  | _, _, _ => return none

def maxWorkers : Int := 64

def checkRuntime (r : Record) : Check (Option Runtime) := do
  let workers ← member r "workers" Runtime.default.workers (Raw.readBounded 1 (some maxWorkers))
  let chunkSize ← member r "chunk_size" Runtime.default.chunkSize (Raw.readBounded 1 none)
  match workers, chunkSize with
  | some workers, some chunkSize => return some ⟨workers, chunkSize⟩
  | _, _ => return none

def names : List String :=
  ["threshold", "innermost_first", "rename", "logging", "report", "runtime"]

def checkExtras : List (String × Raw) → Check Unit
  | [] => return ()
  | (name, _) :: rest => do
    if !names.contains name then
      let _ ← issue (α := Unit) [.member name] .extra
    checkExtras rest

def checkSettings (r : Record) : Check (Option Settings) := do
  let threshold ← member r "threshold" Settings.default.threshold (Raw.readBounded 1 none)
  let innermostFirst ← member r "innermost_first" Settings.default.innermostFirst Raw.readBool
  let rename ← checkRename r
  let logging ← inner r "logging" "LoggingConfig" Logging.default checkLogging
  let report ← inner r "report" "ReportConfig" ReportLimits.default checkReport
  let runtime ← inner r "runtime" "RuntimeConfig" Runtime.default checkRuntime
  checkExtras r.members
  match threshold, innermostFirst, rename, logging, report, runtime with
  | some threshold, some innermostFirst, some rename, some logging, some report, some runtime =>
    return some ⟨threshold, innermostFirst, rename, logging, report, runtime⟩
  | _, _, _, _, _, _ => return none

inductive Refusal where
  | issues (found : List Issue)
  | regex (error : Regex.CompileError)
  deriving DecidableEq, Repr

def runCheck {α : Type} (check : Record → Check (Option α)) (members : List (String × Raw)) :
    Except Refusal α :=
  match (check ⟨[], members⟩).run [] with
  | .error e => .error (.regex e)
  | .ok (some a, []) => .ok a
  | .ok (_, issues) => .error (.issues issues)

end StackQuery.Settings
