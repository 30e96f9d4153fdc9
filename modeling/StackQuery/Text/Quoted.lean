import StackQuery.Text.Printable

/-!
# Quoted text

Messages show a text between quotation marks: apostrophes, unless the text holds an apostrophe and no
double quotation mark. Backslashes, the closing mark and characters that are not printable are escaped.
-/
namespace StackQuery.Text

def apostrophe : Char := Char.ofNat 39

def quotationMark : Char := Char.ofNat 34

def hexDigits (width n : Nat) : List Char :=
  let ds := Nat.toDigits 16 n
  List.replicate (width - ds.length) '0' ++ ds

def escapeCode (c : Nat) : List Char :=
  if c ≤ 0xFF then '\\' :: 'x' :: hexDigits 2 c
  else if c ≤ 0xFFFF then '\\' :: 'u' :: hexDigits 4 c
  else '\\' :: 'U' :: hexDigits 8 c

def quoteChar (mark c : Char) : List Char :=
  if c == mark || c == '\\' then ['\\', c]
  else if c == '\t' then ['\\', 't']
  else if c == '\n' then ['\\', 'n']
  else if c == '\r' then ['\\', 'r']
  else if isPrintable c.toNat then [c]
  else escapeCode c.toNat

def markFor (cs : List Char) : Char :=
  if cs.contains apostrophe && !cs.contains quotationMark then quotationMark else apostrophe

def quoteChars (cs : List Char) : List Char :=
  let mark := markFor cs
  mark :: (cs.flatMap (quoteChar mark) ++ [mark])

def quote (text : String) : String := String.ofList (quoteChars text.toList)

end StackQuery.Text
