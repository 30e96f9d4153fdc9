import StackQuery.Text.Blank
import StackQuery.Text.Digit
import StackQuery.Number.Basic

/-!
# Reading numbers

Numerals may be surrounded by blanks, carry a sign, group digits with single low lines, and use the
decimal digits of any script.
-/
namespace StackQuery.Numeral

/-- Why a text is not a numeral. -/
inductive Refusal where
  | malformed
  | tooManyDigits (count : Nat)
  deriving DecidableEq, Repr

def digitLimit : Nat := 4300

def digitLimitMessage (count : Nat) : String :=
  "Exceeds the limit (" ++ toString digitLimit ++ " digits) for integer string conversion: value has " ++
    toString count ++ " digits; use sys.set_int_max_str_digits() to increase the limit"

/-- A blank at the ends of a numeral; the information separators are none. -/
def isBlank (c : Char) : Bool := Text.isBlank c && !(28 ≤ c.toNat && c.toNat ≤ 31)

def trim (cs : List Char) : List Char := ((cs.dropWhile isBlank).reverse.dropWhile isBlank).reverse

/-- Digit values at the head of a text: one or more digits, single low lines allowed between them. -/
def digitRunAux (afterDigit : Bool) (acc : List Nat) : List Char → Option (List Nat) × List Char
  | [] => (if afterDigit then some acc.reverse else none, [])
  | c :: cs => match Text.decimalValue? c.toNat with
    | some d => digitRunAux true (d :: acc) cs
    | none =>
      if c == '_' && afterDigit then digitRunAux false acc cs
      else (if afterDigit then some acc.reverse else none, c :: cs)

/-- The digits at the head of a text and what follows them; absent if the run is empty or ends in a
low line. -/
def digitRun (cs : List Char) : Option (List Nat) × List Char := digitRunAux false [] cs

def ofDigits (ds : List Nat) : Nat := ds.foldl (fun n d => n * 10 + d) 0

def splitSign : List Char → Bool × List Char
  | '-' :: cs => (true, cs)
  | '+' :: cs => (false, cs)
  | cs => (false, cs)

def readInt (text : List Char) : Except Refusal Int :=
  let (negative, cs) := splitSign (trim text)
  match digitRun cs with
  | (some ds, []) =>
    if digitLimit < ds.length then .error (.tooManyDigits ds.length)
    else .ok (if negative then -Int.ofNat (ofDigits ds) else Int.ofNat (ofDigits ds))
  | _ => .error .malformed

def foldAscii (cs : List Char) : List Char := cs.map Char.toLower

/-- The exponent part at the head of a text; zero if there is none. -/
def exponentPart : List Char → Option (Int × List Char)
  | [] => some (0, [])
  | c :: cs =>
    if c == 'e' || c == 'E' then
      let (negative, cs) := splitSign cs
      match digitRun cs with
      | (some ds, rest) =>
        some (if negative then -Int.ofNat (ofDigits ds) else Int.ofNat (ofDigits ds), rest)
      | (none, _) => none
    else some (0, c :: cs)

/-- The digits after a point, which may be missing when digits stand before it. -/
def fractionPart (required : Bool) : List Char → Option (List Nat × List Char)
  | cs => match cs with
    | c :: _ =>
      if (Text.decimalValue? c.toNat).isSome then
        match digitRun cs with
        | (some ds, rest) => some (ds, rest)
        | (none, _) => none
      else if required then none else some ([], cs)
    | [] => if required then none else some ([], [])

/-- An unsigned decimal: digits, a fraction and an exponent, with digits on one side of the point. -/
def readDecimal (negative : Bool) (cs : List Char) : Option Binary64 := do
  let (whole, rest) ← match digitRun cs with
    | (some ds, rest) => some (ds, rest)
    | (none, rest) => if rest.length == cs.length then some ([], cs) else none
  let (part, rest) ← match rest with
    | '.' :: rest => fractionPart whole.isEmpty rest
    | _ => if whole.isEmpty then none else some ([], rest)
  let (exponent, rest) ← exponentPart rest
  if rest.isEmpty then
    some (Binary64.ofDecimal negative (ofDigits (whole ++ part)) (exponent - Int.ofNat part.length))
  else none

/-- A datum: a decimal, an infinity or NaN, the words in any case. -/
def readFloat? (text : List Char) : Option Binary64 :=
  let (negative, cs) := splitSign (trim text)
  let word := foldAscii cs
  if word == ['n', 'a', 'n'] then some .nan
  else if word == "inf".toList || word == "infinity".toList then some (.infinite negative)
  else readDecimal negative cs

end StackQuery.Numeral
