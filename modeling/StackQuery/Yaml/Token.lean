/-!
# Tokens of a YAML stream

The characters that YAML allows, those that break or separate, a cursor that counts lines and columns,
and the tokens that a stream is made of.
-/
namespace StackQuery.Yaml

def isPrintable (c : Char) : Bool :=
  let n := c.toNat
  n == 9 || n == 10 || n == 13 || (0x20 ≤ n && n ≤ 0x7E) || n == 0x85 || (0xA0 ≤ n && n ≤ 0xD7FF) ||
    (0xE000 ≤ n && n ≤ 0xFFFD) || 0x10000 ≤ n

def isBreak (c : Char) : Bool :=
  c == '\r' || c == '\n' || c == '\x85' || c == '\u2028' || c == '\u2029'

def breaks (c : Option Char) : Bool := (c.map isBreak).getD true

def spaces (c : Option Char) : Bool := breaks c || c == some ' '

def blanks (c : Option Char) : Bool := spaces c || c == some '\t'

/-- A character of a name: letters and digits of ASCII, the hyphen and the low line. -/
def isNameChar (c : Char) : Bool := c.isAlphanum || c == '-' || c == '_'

def isHex (c : Char) : Bool := c.isDigit || ('a' ≤ c && c ≤ 'f') || ('A' ≤ c && c ≤ 'F')

/-- What is left of a stream, and how many characters, lines and columns come before it. -/
structure Cursor where
  rest : List Char
  index : Nat
  line : Nat
  column : Nat

namespace Cursor

def start (text : List Char) : Cursor := ⟨text, 0, 0, 0⟩

/-- The mark that may stand at the beginning of a stream; it has no width. -/
def byteOrderMark : Char := '\uFEFF'

def next (k : Cursor) : Cursor :=
  match k.rest with
  | [] => k
  | c :: rest =>
    if isBreak c && !(c == '\r' && rest.head? == some '\n') then ⟨rest, k.index + 1, k.line + 1, 0⟩
    else ⟨rest, k.index + 1, k.line, if c == byteOrderMark then k.column else k.column + 1⟩

def skip : Nat → Cursor → Cursor
  | 0, k => k
  | n + 1, k => skip n k.next

end Cursor

inductive Directive where
  | version (major : Nat)
  | tag (handle start : String)
  | reserved
  deriving DecidableEq, Repr

inductive Token where
  | directive (value : Directive)
  | documentStart
  | documentEnd
  | blockSequenceStart
  | blockMappingStart
  | blockEnd
  | flowSequenceStart
  | flowSequenceEnd
  | flowMappingStart
  | flowMappingEnd
  | blockEntry
  | flowEntry
  | key
  | value
  | alias (name : String)
  | anchor (name : String)
  /-- A tag with its handle, or the whole tag without one. -/
  | tag (handle : Option String) (suffix : String)
  | scalar (text : String) (plain : Bool)
  deriving DecidableEq, Repr

end StackQuery.Yaml
