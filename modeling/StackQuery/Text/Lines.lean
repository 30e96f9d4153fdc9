/-!
# Lines

A line ends with a line feed, a carriage return, or both in this order.
-/
namespace StackQuery.Text

def unifyLineEnds : List Char → List Char
  | [] => []
  | '\r' :: '\n' :: rest => '\n' :: unifyLineEnds rest
  | c :: rest => (if c = '\r' then '\n' else c) :: unifyLineEnds rest

/-- The pieces between line feeds; a text that ends with one has no empty piece at its end. The second
argument holds the current piece, its last character first. -/
def splitLinesFrom : List Char → List Char → List (List Char)
  | [], piece => if piece.isEmpty then [] else [piece.reverse]
  | c :: rest, piece =>
    if c = '\n' then piece.reverse :: splitLinesFrom rest [] else splitLinesFrom rest (c :: piece)

def lines (text : List Char) : List (List Char) := splitLinesFrom (unifyLineEnds text) []

theorem unifyLineEnds_cons {c : Char} (h : c ≠ '\r') (rest : List Char) :
    unifyLineEnds (c :: rest) = c :: unifyLineEnds rest := by
  rw [unifyLineEnds]
  · rw [if_neg h]
  · intro _ hc
    exact absurd hc h

end StackQuery.Text
