import StackQuery.Text.Quoted

/-!
# Patterns of a query

A pattern is a tree over the frames of a sample. The terms of a query form a chain; every other node may
hold any node. Leaves carry the test that their regex performs on a frame name, and are compared and
printed by the text of the regex.
-/
namespace StackQuery

/-- The name of a function on a call stack. -/
abbrev Frame := String

/-- The frames of one recorded call stack. -/
abbrev Sample := List Frame

namespace Query

inductive Node where
  /-- One frame whose name passes the test of a regex. -/
  | leaf (text : String) (accepts : Frame → Bool)
  | any
  | seq (left right : Node)
  | skip (inner : Node)
  /-- A node does not match here; takes no frames. -/
  | absent (inner : Node)

namespace Node

def flatten : Node → List Node
  | .seq left right => left.flatten ++ right.flatten
  | node => [node]

def leading : Node → Node
  | .seq left _ => left.leading
  | node => node

def isSkip : Node → Bool
  | .skip _ => true
  | _ => false

def isAbsent : Node → Bool
  | .absent _ => true
  | _ => false

def isSeq : Node → Bool
  | .seq .. => true
  | _ => false

/-- The text of a node in the query language. A comma is left out before a skip. -/
def toChars : Node → List Char
  | .leaf text _ => '\x7b' :: (text.toList ++ ['\x7d'])
  | .any => ['.']
  | .seq left right =>
    if right.leading.isSkip then left.toChars ++ right.toChars
    else left.toChars ++ ',' :: right.toChars
  | .skip inner => '.' :: '.' :: inner.toChars
  | .absent inner => '!' :: inner.toChars

def toText (node : Node) : String := String.ofList node.toChars

/-- Equality of nodes; leaves with one text are equal. -/
def same : Node → Node → Bool
  | .leaf a _, .leaf b _ => a == b
  | .any, .any => true
  | .seq a b, .seq c d => a.same c && b.same d
  | .skip a, .skip b => a.same b
  | .absent a, .absent b => a.same b
  | _, _ => false

def chain (first : Node) : List Node → Node
  | [] => first
  | next :: rest => .seq first (chain next rest)

theorem flatten_ne_nil (node : Node) : node.flatten ≠ [] := by
  induction node with
  | seq left right ihl _ =>
    intro h
    exact ihl (List.append_eq_nil_iff.mp h).1
  | _ => simp [flatten]

theorem leading_eq_head (node : Node) : node.flatten.head? = some node.leading := by
  induction node with
  | seq left right ihl _ => simp [flatten, leading, List.head?_append, ihl]
  | _ => rfl

theorem flatten_of_not_isSeq {node : Node} (h : node.isSeq = false) : node.flatten = [node] := by
  cases node <;> first | rfl | cases h

theorem flatten_chain {first : Node} {rest : List Node}
    (h : ∀ t ∈ first :: rest, t.isSeq = false) :
    (chain first rest).flatten = first :: rest := by
  induction rest generalizing first with
  | nil => simpa [chain] using flatten_of_not_isSeq (h first (by simp))
  | cons next rest ih =>
    have hf := flatten_of_not_isSeq (h first (by simp))
    have hr : (chain next rest).flatten = next :: rest :=
      ih fun t ht => h t (List.mem_cons_of_mem _ ht)
    simp [chain, flatten, hf, hr]

theorem same_refl (node : Node) : node.same node = true := by
  induction node with
  | leaf => simp [same]
  | any => rfl
  | seq _ _ ihl ihr => simp [same, ihl, ihr]
  | skip _ ih => simpa [same] using ih
  | absent _ ih => simpa [same] using ih

end Node

/-- Why no pattern can be built from terms. -/
inductive ChainError where
  | noTerms
  deriving DecidableEq, Repr

def ChainError.message : ChainError → String
  | .noTerms => "Cannot build a pattern from zero terms"

def ofTerms : List Node → Except ChainError Node
  | [] => .error .noTerms
  | first :: rest => .ok (Node.chain first rest)

/-- A query as it was written, with its pattern. -/
structure Pattern where
  text : String
  root : Node

namespace Pattern

def terms (p : Pattern) : List Node := p.root.flatten

def consumes (p : Pattern) : Bool := p.terms.any (!·.isAbsent)

def toText (p : Pattern) : String := p.root.toText

end Pattern

end Query

end StackQuery
