import StackQuery.Number.Numeral
import StackQuery.Regex.Basic
import StackQuery.Text.Quoted

/-!
# Scalars

A plain scalar takes its kind from its form: the words for truth values and nothing, the forms of
numbers and dates. A scalar of a known kind is then read; base 2, 8, 10, 16 and 60 are told apart by how
a number is written.
-/
namespace StackQuery.Yaml

inductive Kind where
  | null
  | bool
  | int
  | float
  | binary
  | timestamp
  | orderedMap
  | pairs
  | set
  | text
  | sequence
  | mapping
  /-- The key of a mapping whose entries are taken over. -/
  | merge
  | default
  | unknown
  deriving DecidableEq, Repr

namespace Kind

def commonTag : String := "tag:yaml.org,2002:"

def words : List (String × Kind) :=
  [("null", null), ("bool", bool), ("int", int), ("float", float), ("binary", binary),
    ("timestamp", timestamp), ("omap", orderedMap), ("pairs", pairs), ("set", set), ("str", text),
    ("seq", sequence), ("map", mapping), ("merge", merge), ("value", default)]

def ofTag (tag : String) : Kind :=
  if commonTag.toList.isPrefixOf tag.toList then
    (words.lookup (String.ofList (tag.toList.drop commonTag.length))).getD unknown
  else unknown

end Kind

/-- A form of plain scalars: how they may begin, their kind, and the whole form. -/
structure Form where
  begins : String
  kind : Kind
  regex : Option Regex

def Form.of (begins : String) (kind : Kind) (regex : String) : Form :=
  ⟨begins, kind, (Regex.compile regex).toOption⟩

def forms : List Form :=
  [.of "yYnNtTfFoO" .bool
      "^(?:yes|Yes|YES|no|No|NO|true|True|TRUE|false|False|FALSE|on|On|ON|off|Off|OFF)$",
    .of "-+0123456789." .float
      (r"^(?:[-+]?(?:[0-9][0-9_]*)\.[0-9_]*(?:[eE][-+][0-9]+)?|\.[0-9][0-9_]*(?:[eE][-+][0-9]+)?" ++
        r"|[-+]?[0-9][0-9_]*(?::[0-5]?[0-9])+\.[0-9_]*|[-+]?\.(?:inf|Inf|INF)|\.(?:nan|NaN|NAN))$"),
    .of "-+0123456789" .int
      (r"^(?:[-+]?0b[0-1_]+|[-+]?0[0-7_]+|[-+]?(?:0|[1-9][0-9_]*)|[-+]?0x[0-9a-fA-F_]+" ++
        r"|[-+]?[1-9][0-9_]*(?::[0-5]?[0-9])+)$"),
    .of "<" .merge "^(?:<<)$",
    .of "~nN" .null "^(?:~|null|Null|NULL|)$",
    .of "0123456789" .timestamp
      (r"^(?:[0-9][0-9][0-9][0-9]-[0-9][0-9]-[0-9][0-9]|[0-9][0-9][0-9][0-9]-[0-9][0-9]?-[0-9][0-9]?" ++
        r"(?:[Tt]|[ \t]+)[0-9][0-9]?:[0-9][0-9]:[0-9][0-9](?:\.[0-9]*)?" ++
        r"(?:[ \t]*(?:Z|[-+][0-9][0-9]?(?::[0-9][0-9])?))?)$"),
    .of "=" .default "^(?:=)$",
    .of "!&*" .unknown "^(?:!|&|[*])$"]

/-- The kind of a plain scalar; without a form it is text. -/
def plainKind (text : String) : Kind :=
  match text.toList with
  | [] => .null
  | c :: _ =>
    let fits (f : Form) : Bool :=
      f.begins.toList.contains c && (f.regex.map (·.found text)).getD false
    ((forms.find? fits).map Form.kind).getD .text

inductive Fault where
  /-- The text is no document, or has a node that no value belongs to. -/
  | ill
  | badInteger (base : Nat) (text : String)
  | tooManyDigits (count : Nat)
  | badFloat (text : String)
  | arithmetic (error : ArithmeticError)
  | badBool (word : String)
  | emptyNumber
  | badDate (reason : String)
  /-- A text that is no date where one has to stand. -/
  | notDate
  | other (message : String)
  deriving DecidableEq, Repr

def Fault.message : Fault → String
  | .ill => "ill-formed document"
  | .badInteger base text =>
    "invalid literal for int() with base " ++ toString base ++ ": " ++ Text.quote text
  | .tooManyDigits count => Numeral.digitLimitMessage count
  | .badFloat text => "could not convert string to float: " ++ Text.quote text
  | .arithmetic error => error.message
  | .badBool word => Text.quote word
  | .emptyNumber => "string index out of range"
  | .badDate reason => reason
  | .notDate => "'NoneType' object has no attribute 'groupdict'"
  | .other message => message

def decimalInt (cs : List Char) : Except Fault Int :=
  match Numeral.readInt cs with
  | .ok z => .ok z
  | .error .malformed => .error (.badInteger 10 (String.ofList cs))
  | .error (.tooManyDigits count) => .error (.tooManyDigits count)

/-- The value of a digit of any script, or of a letter that stands for a digit beyond nine. -/
def digitValue? (c : Char) : Option Nat :=
  if c.isAlpha then some (c.toLower.toNat - 87) else Text.decimalValue? c.toNat

/-- The letter that may stand after a zero before digits in a base. -/
def baseLetter (base : Nat) : Char := if base == 2 then 'b' else if base == 8 then 'o' else 'x'

/-- The digits of a number in a base, without the zero and the letter that may announce it. -/
def baseDigits (base : Nat) (cs : List Char) : List Char :=
  match cs with
  | '0' :: c :: rest => if c.toLower == baseLetter base then rest else cs
  | _ => cs

def baseInt (base : Nat) (cs : List Char) : Except Fault Int :=
  let (negative, body) := Numeral.splitSign (Numeral.trim cs)
  let digits := (baseDigits base body).map digitValue?
  if !digits.isEmpty && digits.all (fun d => (d.map fun v => decide (v < base)).getD false) then
    let n := Int.ofNat (digits.foldl (fun n d => n * base + d.getD 0) 0)
    .ok (if negative then -n else n)
  else .error (.badInteger base (String.ofList cs))

/-- The sign at the front of a number without its low lines, and what follows. -/
def splitNumber (text : List Char) : Except Fault (Int × List Char) :=
  match text with
  | [] => .error .emptyNumber
  | c :: rest =>
    if c == '-' then .ok (-1, rest) else if c == '+' then .ok (1, rest) else .ok (1, c :: rest)

def colonParts (cs : List Char) : List (List Char) :=
  (String.ofList cs).splitOn ":" |>.map String.toList

def readInt (text : String) : Except Fault Int := do
  let (sign, cs) ← splitNumber (text.toList.filter (· != '_'))
  let magnitude ← match cs with
    | [] => .error .emptyNumber
    | ['0'] => pure 0
    | '0' :: 'b' :: rest => baseInt 2 rest
    | '0' :: 'x' :: rest => baseInt 16 rest
    | '0' :: _ => baseInt 8 cs
    | _ =>
      if cs.contains ':' then do
        let digits ← (colonParts cs).mapM decimalInt
        pure (digits.foldl (fun n d => n * 60 + d) 0)
      else decimalInt cs
  return sign * magnitude

def decimalFloat (cs : List Char) : Except Fault Binary64 :=
  match Numeral.readFloat? cs with
  | some x => .ok x
  | none => .error (.badFloat (String.ofList cs))

def sexagesimal : List Binary64 → (base : Int) → Binary64 → Binary64
  | [], _, sum => sum
  | d :: rest, base, sum => sexagesimal rest (base * 60) (sum.add (d.mul (Binary64.ofInt base)))

def readFloat (text : String) : Except Fault Binary64 := do
  let (sign, cs) ← splitNumber ((Text.lowercase text).toList.filter (· != '_'))
  if cs == ".inf".toList then return .infinite (sign < 0)
  else if cs == ".nan".toList then return .nan
  else
    let x ← if cs.contains ':' then do
        let digits ← (colonParts cs).mapM decimalFloat
        pure (sexagesimal digits.reverse 1 (Binary64.zero false))
      else decimalFloat cs
    return (Binary64.ofInt sign).mul x

def readBool (text : String) : Except Fault Bool :=
  let word := Text.lowercase text
  if ["yes", "true", "on"].contains word then .ok true
  else if ["no", "false", "off"].contains word then .ok false
  else .error (.badBool word)

def dateForm : Option Regex :=
  (Regex.compile (r"^([0-9][0-9][0-9][0-9])-([0-9][0-9]?)-([0-9][0-9]?)" ++
    r"(?:(?:[Tt]|[ \t]+)([0-9][0-9]?):([0-9][0-9]):([0-9][0-9])(?:\.([0-9]*))?" ++
    r"(?:[ \t]*(Z|([-+])([0-9][0-9]?)(?::([0-9][0-9]))?))?)?$")).toOption

def daysOf (year month : Nat) : Nat :=
  if month == 2 then
    if year % 4 == 0 && (year % 100 != 0 || year % 400 == 0) then 29 else 28
  else if month == 4 || month == 6 || month == 9 || month == 11 then 30
  else 31

def daySeconds : Int := 86400

/-- A length of time in days and the rest of a day in seconds. -/
def durationText (seconds : Int) : String :=
  let rest := seconds % daySeconds
  "datetime.timedelta(days=" ++ toString (seconds / daySeconds) ++
    (if rest == 0 then "" else ", seconds=" ++ toString rest) ++ ")"

/-- Checks that the distance of a time from the common one is less than a day. -/
def checkOffset (seconds : Int) : Except Fault Unit :=
  if -daySeconds < seconds && seconds < daySeconds then .ok ()
  else .error (.badDate ("offset must be a timedelta strictly between -timedelta(hours=24) and " ++
    "timedelta(hours=24), not " ++ durationText seconds ++ "."))

/-- Checks that a scalar is a date or a time of a date. -/
def checkDate (text : String) : Except Fault Unit := do
  let subject := text.toList.toArray
  match dateForm.bind fun r => r.search? subject 0 false with
  | none => .error .notDate
  | some m =>
    let part (group : Nat) : Nat := Numeral.ofDigits ((m.group subject group).map fun c => c.toNat - 48)
    let year := part 1
    let offset := Int.ofNat (part 10 * 3600 + part 11 * 60)
    checkOffset (if m.group subject 9 == ['-'] then -offset else offset)
    if year == 0 then .error (.badDate "year 0 is out of range")
    else if part 2 == 0 || 12 < part 2 then .error (.badDate "month must be in 1..12")
    else if part 3 == 0 || daysOf year (part 2) < part 3 then
      .error (.badDate "day is out of range for month")
    else if 23 < part 4 then .error (.badDate "hour must be in 0..23")
    else if 59 < part 5 then .error (.badDate "minute must be in 0..59")
    else if 59 < part 6 then .error (.badDate "second must be in 0..59")
    else .ok ()

def base64Value? (c : Char) : Option Nat :=
  if 'A' ≤ c && c ≤ 'Z' then some (c.toNat - 65)
  else if 'a' ≤ c && c ≤ 'z' then some (c.toNat - 71)
  else if c.isDigit then some (c.toNat + 4)
  else if c == '+' then some 62
  else if c == '/' then some 63
  else none

/-- The bytes of a text in base 64. Other characters are skipped; four characters, padded at the end of
the text, stand for three bytes. -/
def readBase64 : (pending : List Nat) → (padding : Nat) → List Char → Option (List UInt8)
  | [], _, [] => some []
  | _ :: _, _, [] => none
  | pending, padding, c :: rest =>
    if c == '=' then
      if 2 ≤ pending.length && 4 ≤ pending.length + padding + 1 then
        match pending with
        | [a, b] => some [UInt8.ofNat (a * 4 + b / 16)]
        | a :: b :: c :: _ => some [UInt8.ofNat (a * 4 + b / 16), UInt8.ofNat (b * 16 + c / 4)]
        | _ => none
      else readBase64 pending (padding + 1) rest
    else
      match base64Value? c, pending with
      | none, _ => readBase64 pending padding rest
      | some d, [x, y, z] =>
        (readBase64 [] 0 rest).map fun bytes =>
          UInt8.ofNat (x * 4 + y / 16) :: UInt8.ofNat (y * 16 + z / 4) :: UInt8.ofNat (z * 64 + d) :: bytes
      | some d, _ => readBase64 (pending ++ [d]) 0 rest

end StackQuery.Yaml
