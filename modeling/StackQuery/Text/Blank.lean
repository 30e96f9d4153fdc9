/-!
# Blanks

Blanks separate the words of a frame line and the terms of a query. They are the code points with the
Unicode property White_Space together with the four information separators.
-/
namespace StackQuery.Text

def isBlankCode (c : Nat) : Bool :=
  (9 ≤ c && c ≤ 13) || (28 ≤ c && c ≤ 32) || c == 0x85 || c == 0xA0 || c == 0x1680 ||
    (0x2000 ≤ c && c ≤ 0x200A) || c == 0x2028 || c == 0x2029 || c == 0x202F || c == 0x205F ||
    c == 0x3000

def isBlank (c : Char) : Bool := isBlankCode c.toNat

/-- A blank of ASCII, as the regex class for blanks has it when Unicode is switched off. -/
def isAsciiBlank (c : Nat) : Bool := (9 ≤ c && c ≤ 13) || c == 32

def wordsAux (cs word : List Char) : List (List Char) :=
  match cs with
  | [] => if word.isEmpty then [] else [word.reverse]
  | c :: rest =>
    if isBlank c then
      if word.isEmpty then wordsAux rest [] else word.reverse :: wordsAux rest []
    else wordsAux rest (c :: word)

/-- The words of a text: its maximal runs of characters that are not blank. -/
def words (cs : List Char) : List (List Char) := wordsAux cs []

end StackQuery.Text
