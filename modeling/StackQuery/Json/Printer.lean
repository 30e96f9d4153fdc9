import StackQuery.Json.Basic
import StackQuery.Text.Quoted

/-!
# Printing JSON

Values are printed on one line, with a blank after commas and colons. Texts are printed in ASCII: quotes,
backslashes, control characters and what lies beyond ASCII are escaped, the latter in units of sixteen
bits.
-/
namespace StackQuery.Json

def escapeUnit (n : Nat) : List Char := '\\' :: 'u' :: Text.hexDigits 4 n

def surrogates (n : Nat) : Nat × Nat :=
  let offset := n - 0x10000
  (0xD800 + offset / 0x400, 0xDC00 + offset % 0x400)

def escapeChar (c : Char) : List Char :=
  if c == Text.quotationMark || c == '\\' then ['\\', c]
  else if c == '\n' then ['\\', 'n']
  else if c == '\r' then ['\\', 'r']
  else if c == '\t' then ['\\', 't']
  else if c == '\x08' then ['\\', 'b']
  else if c == '\x0c' then ['\\', 'f']
  else if 32 ≤ c.toNat && c.toNat < 127 then [c]
  else if c.toNat < 0x10000 then escapeUnit c.toNat
  else
    let (high, low) := surrogates c.toNat
    escapeUnit high ++ escapeUnit low

def printText (text : String) : String :=
  String.ofList (Text.quotationMark :: text.toList.flatMap escapeChar ++ [Text.quotationMark])

/-- A printed number; data that are not finite have words. -/
def printNumber : Number → String
  | .int z => toString z
  | .float x => match x with
    | .nan => "NaN"
    | .infinite negative => if negative then "-Infinity" else "Infinity"
    | .finite .. => x.toShortest

mutual

def print : Json → String
  | null => "null"
  | bool b => if b then "true" else "false"
  | number x => printNumber x
  | string s => printText s
  | array xs => "[" ++ ", ".intercalate (printEach xs) ++ "]"
  | object ms => "\x7b" ++ ", ".intercalate (printMembers ms) ++ "\x7d"

def printEach : List Json → List String
  | [] => []
  | x :: rest => x.print :: printEach rest

def printMembers : List (String × Json) → List String
  | [] => []
  | (name, x) :: rest => (printText name ++ ": " ++ x.print) :: printMembers rest

end

end StackQuery.Json
