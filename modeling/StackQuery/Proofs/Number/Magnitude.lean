import StackQuery.Number.Basic

/-!
# Whole numbers as data

A whole number has a nearest finite datum unless it is very large. So a percentage is defined for every
count that is smaller than half the greatest datum, and only the size of a number can prevent it.
-/
namespace StackQuery

namespace Binary64

theorem binade_le (num den : Nat) : binade num den ≤ Int.ofNat num.log2 - Int.ofNat den.log2 := by
  rw [binade]
  dsimp only
  split <;> omega

theorem ofRatio_not_infinite {num den : Nat} (h : binade num den < maxExponent + 52) (negative : Bool) :
    (ofRatio negative num den).isInfinite = false := by
  have hexponent : max (-1074) (binade num den - 52) < 971 := by
    simp only [maxExponent] at h
    omega
  rw [ofRatio]
  split
  · rfl
  · dsimp only
    split <;> dsimp only <;> rw [if_neg (by simp only [minExponent, maxExponent]; omega)] <;> rfl

/-- A whole number is no larger than the greatest datum if it has at most 1023 binary digits. -/
theorem ofInt_not_infinite {z : Int} (h : z.natAbs.log2 < 1023) : (ofInt z).isInfinite = false := by
  refine ofRatio_not_infinite ?_ _
  have hbinade : binade z.natAbs 1 ≤ Int.ofNat z.natAbs.log2 := binade_le z.natAbs 1
  simp only [Int.ofNat_eq_natCast, maxExponent] at hbinade ⊢
  omega

end Binary64

/-- A number has a nearest datum that is finite. -/
def HasDatum (z : Int) : Prop := (Binary64.ofInt z).isInfinite = false

theorem Number.exists_ofIntExact_iff {z : Int} : (∃ x, ofIntExact z = .ok x) ↔ HasDatum z := by
  rw [ofIntExact, HasDatum]
  cases (Binary64.ofInt z).isInfinite <;> simp

theorem Number.ofIntExact_eq_error {z : Int} {e : ArithmeticError} (h : ofIntExact z = .error e) :
    e = .tooLarge := by
  rw [ofIntExact] at h
  split at h <;> cases h
  rfl

theorem percent_eq_error {count total : Int} {e : ArithmeticError} (h : percent count total = .error e) :
    e = .tooLarge := by
  rw [percent] at h
  split at h
  · cases h
  · cases hpart : Number.ofIntExact count with
    | error e' =>
      rw [hpart] at h
      cases h
      exact Number.ofIntExact_eq_error hpart
    | ok part =>
      cases hwhole : Number.ofIntExact total with
      | error e' =>
        rw [hpart, hwhole] at h
        cases h
        exact Number.ofIntExact_eq_error hwhole
      | ok whole =>
        rw [hpart, hwhole] at h
        cases h

theorem exists_percent_iff {count total : Int} :
    (∃ x, percent count total = .ok x) ↔ total ≤ 0 ∨ HasDatum count ∧ HasDatum total := by
  rw [← Number.exists_ofIntExact_iff, ← Number.exists_ofIntExact_iff, percent]
  by_cases hnone : total ≤ 0
  · simp [hnone]
  · rw [if_neg hnone, or_iff_right hnone]
    cases Number.ofIntExact count <;> cases Number.ofIntExact total <;>
      simp [bind, Except.bind, pure, Except.pure]

end StackQuery
