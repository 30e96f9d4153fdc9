/-!
# Sets of code points by their bounds

A set of code points is stored as an increasing array `#[a₀, b₀, a₁, b₁, …]`: it holds the half-open
runs `[a₀, b₀)`, `[a₁, b₁)` and so on. A code point belongs to the set exactly when the number of
bounds at or below it is odd.
-/
namespace StackQuery.Text

/-- Bisection for the number of bounds at or below `c`, known to lie between `lo` and `hi`. -/
def countBelow (bounds : Array Nat) (c : Nat) : (steps lo hi : Nat) → Nat
  | 0, lo, _ => lo
  | steps + 1, lo, hi =>
    if lo < hi then
      let mid := (lo + hi) / 2
      if bounds.getD mid 0 ≤ c then countBelow bounds c steps (mid + 1) hi
      else countBelow bounds c steps lo mid
    else lo

def inRuns (bounds : Array Nat) (c : Nat) : Bool :=
  countBelow bounds c bounds.size 0 bounds.size % 2 == 1

end StackQuery.Text
