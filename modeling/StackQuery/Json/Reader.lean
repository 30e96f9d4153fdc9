import StackQuery.Json.Basic
import StackQuery.Number.Numeral

/-!
# Reading JSON

Beside the standard grammar the reader takes `NaN`, `Infinity` and `-Infinity`. Strings may not hold
control characters. The recursion is bounded by the length of the text: every step that goes deeper has
read at least one character.
-/
namespace StackQuery.Json

def isJsonBlank (c : Char) : Bool := c == ' ' || c == '\t' || c == '\n' || c == '\r'

def skipBlanks (cs : List Char) : List Char := cs.dropWhile isJsonBlank

def hexDigit? (c : Char) : Option Nat :=
  if c.isDigit then some (c.toNat - 48)
  else if 'a' ≤ c && c ≤ 'f' then some (c.toNat - 87)
  else if 'A' ≤ c && c ≤ 'F' then some (c.toNat - 55)
  else none

def hexUnit? : List Char → Option (Nat × List Char)
  | a :: b :: c :: d :: rest => do
    let a ← hexDigit? a
    let b ← hexDigit? b
    let c ← hexDigit? c
    let d ← hexDigit? d
    return (((a * 16 + b) * 16 + c) * 16 + d, rest)
  | _ => none

/-- The character of one code unit, or of a pair of surrogate units. -/
def unitChar (unit : Nat) (rest : List Char) : Char × List Char :=
  if 0xD800 ≤ unit && unit < 0xDC00 then
    match rest with
    | '\\' :: 'u' :: more =>
      match hexUnit? more with
      | some (low, after) =>
        if 0xDC00 ≤ low && low < 0xE000 then
          (Char.ofNat (0x10000 + (unit - 0xD800) * 0x400 + (low - 0xDC00)), after)
        else (Char.ofNat 0xFFFD, rest)
      | none => (Char.ofNat 0xFFFD, rest)
    | _ => (Char.ofNat 0xFFFD, rest)
  else if 0xDC00 ≤ unit && unit < 0xE000 then (Char.ofNat 0xFFFD, rest)
  else (Char.ofNat unit, rest)

def letterEscape? : Char → Option Char
  | '"' => some '"'
  | '\\' => some '\\'
  | '/' => some '/'
  | 'b' => some (Char.ofNat 8)
  | 'f' => some (Char.ofNat 12)
  | 'n' => some '\n'
  | 'r' => some '\r'
  | 't' => some '\t'
  | _ => none

/-- The rest of a string after its opening mark; the characters read so far are latest first. -/
def readChars : Nat → List Char → List Char → Option (String × List Char)
  | 0, _, _ => none
  | fuel + 1, read, cs =>
    match cs with
    | [] => none
    | '"' :: rest => some (String.ofList read.reverse, rest)
    | '\\' :: 'u' :: rest =>
      match hexUnit? rest with
      | some (unit, rest) =>
        let (c, rest) := unitChar unit rest
        readChars fuel (c :: read) rest
      | none => none
    | '\\' :: c :: rest =>
      match letterEscape? c with
      | some c => readChars fuel (c :: read) rest
      | none => none
    | c :: rest => if c.toNat < 32 then none else readChars fuel (c :: read) rest

def digitsOf (cs : List Char) : List Char × List Char := cs.span (·.isDigit)

def digitValue (ds : List Char) : Nat := ds.foldl (fun n d => n * 10 + (d.toNat - 48)) 0

/-- The whole part of a number: a zero, or digits that do not begin with one. -/
def wholePart? (cs : List Char) : Option (List Char × List Char) :=
  match cs with
  | '0' :: rest => some (['0'], rest)
  | _ =>
    let (ds, rest) := digitsOf cs
    if ds.isEmpty then none else some (ds, rest)

def fraction (cs : List Char) : List Char × List Char :=
  match cs with
  | '.' :: more =>
    let (ds, rest) := digitsOf more
    if ds.isEmpty then ([], cs) else (ds, rest)
  | _ => ([], cs)

def exponent? (cs : List Char) : Option Int × List Char :=
  match cs with
  | c :: more =>
    if c == 'e' || c == 'E' then
      let (negative, more) := Numeral.splitSign more
      let (ds, rest) := digitsOf more
      if ds.isEmpty then (none, cs)
      else (some (if negative then -Int.ofNat (digitValue ds) else Int.ofNat (digitValue ds)), rest)
    else (none, cs)
  | [] => (none, cs)

/-- A number without its sign. A fraction or an exponent makes it a binary datum. -/
def readNumber? (negative : Bool) (cs : List Char) : Option (Json × List Char) := do
  let (whole, rest) ← wholePart? cs
  let (part, rest) := fraction rest
  let (power, rest) := exponent? rest
  if part.isEmpty && power.isNone then
    if Numeral.digitLimit < whole.length then none
    else
      let n := Int.ofNat (digitValue whole)
      return (.number (.int (if negative then -n else n)), rest)
  else
    let power := power.getD 0 - Int.ofNat part.length
    return (.number (.float (Binary64.ofDecimal negative (digitValue (whole ++ part)) power)), rest)

def dropWord? (word : String) (cs : List Char) : Option (List Char) :=
  let w := word.toList
  if w.isPrefixOf cs then some (cs.drop w.length) else none

def readScalar? (cs : List Char) : Option (Json × List Char) :=
  match dropWord? "null" cs, dropWord? "true" cs, dropWord? "false" cs, dropWord? "NaN" cs,
    dropWord? "Infinity" cs, dropWord? "-Infinity" cs with
  | some rest, _, _, _, _, _ => some (.null, rest)
  | _, some rest, _, _, _, _ => some (.bool true, rest)
  | _, _, some rest, _, _, _ => some (.bool false, rest)
  | _, _, _, some rest, _, _ => some (.number (.float .nan), rest)
  | _, _, _, _, some rest, _ => some (.number (.float (.infinite false)), rest)
  | _, _, _, _, _, some rest => some (.number (.float (.infinite true)), rest)
  | _, _, _, _, _, _ =>
    match cs with
    | '-' :: rest => readNumber? true rest
    | _ => readNumber? false cs

mutual

def readValue : Nat → List Char → Option (Json × List Char)
  | 0, _ => none
  | fuel + 1, cs =>
    match cs with
    | '"' :: rest => (readChars (rest.length + 1) [] rest).map fun (s, rest) => (.string s, rest)
    | '[' :: rest =>
      match skipBlanks rest with
      | ']' :: rest => some (.array [], rest)
      | rest => (readElements fuel [] rest).map fun (vs, rest) => (.array vs, rest)
    | '\x7b' :: rest =>
      match skipBlanks rest with
      | '\x7d' :: rest => some (.object [], rest)
      | rest => (readMembers fuel [] rest).map fun (ms, rest) => (.object ms, rest)
    | _ => readScalar? cs

/-- The elements of an array up to its closing bracket; those read so far are latest first. -/
def readElements : Nat → List Json → List Char → Option (List Json × List Char)
  | 0, _, _ => none
  | fuel + 1, read, cs =>
    match readValue fuel cs with
    | none => none
    | some (value, rest) =>
      match skipBlanks rest with
      | ',' :: rest => readElements fuel (value :: read) (skipBlanks rest)
      | ']' :: rest => some ((value :: read).reverse, rest)
      | _ => none

def readMembers : Nat → List (String × Json) → List Char → Option (List (String × Json) × List Char)
  | 0, _, _ => none
  | fuel + 1, read, cs =>
    match cs with
    | '"' :: rest =>
      match readChars (rest.length + 1) [] rest with
      | none => none
      | some (key, rest) =>
        match skipBlanks rest with
        | ':' :: rest =>
          match readValue fuel (skipBlanks rest) with
          | none => none
          | some (value, rest) =>
            let read := setMember read key value
            match skipBlanks rest with
            | ',' :: rest => readMembers fuel read (skipBlanks rest)
            | '\x7d' :: rest => some (read, rest)
            | _ => none
        | _ => none
    | _ => none

end

def read? (text : String) : Option Json :=
  let cs := text.toList
  match readValue (2 * cs.length + 2) (skipBlanks cs) with
  | some (value, rest) => if (skipBlanks rest).isEmpty then some value else none
  | none => none

end StackQuery.Json
