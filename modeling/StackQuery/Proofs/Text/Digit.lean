import StackQuery.Text.Blank
import StackQuery.Text.Digit
import StackQuery.Text.Identifier

/-!
# Decimal digits among the characters

A decimal digit of any script is one of ten consecutive code points, none of which is a blank or begins an
identifier.
-/
namespace StackQuery.Text

section Runs

variable {bounds : Array Nat} {c lo hi steps : Nat}

/-- Bisection ends between a bound that is not above the code point and the next one, which is. -/
theorem countBelow_between (hsteps : hi - lo ≤ steps) (hle : lo ≤ hi) (hhi : hi ≤ bounds.size)
    (hlower : lo = 0 ∨ bounds.getD (lo - 1) 0 ≤ c) (hupper : hi = bounds.size ∨ c < bounds.getD hi 0) :
    ∃ k ≤ bounds.size, countBelow bounds c steps lo hi = k ∧ (k = 0 ∨ bounds.getD (k - 1) 0 ≤ c) ∧
      (k = bounds.size ∨ c < bounds.getD k 0) := by
  induction steps generalizing lo hi with
  | zero =>
    obtain rfl : lo = hi := by omega
    exact ⟨lo, hhi, rfl, hlower, hupper⟩
  | succ steps ih =>
    rw [countBelow]
    split
    · dsimp only
      split
      · next hmid => exact ih (by omega) (by omega) hhi (.inr hmid) hupper
      · next hmid => exact ih (by omega) (by omega) (by omega) hlower (.inr (Nat.lt_of_not_le hmid))
    · obtain rfl : lo = hi := by omega
      exact ⟨lo, hhi, rfl, hlower, hupper⟩

def runs : List Nat → List (Nat × Nat)
  | a :: b :: rest => (a, b) :: runs rest
  | _ => []

theorem mem_runs {bounds : List Nat} {i a b : Nat} (ha : bounds[2 * i]? = some a)
    (hb : bounds[2 * i + 1]? = some b) : (a, b) ∈ runs bounds := by
  induction i generalizing bounds with
  | zero =>
    match bounds with
    | _ :: _ :: _ =>
      cases ha
      cases hb
      exact List.mem_cons_self
  | succ i ih =>
    match bounds with
    | [] => cases ha
    | [_] => cases hb
    | _ :: _ :: rest => exact List.mem_cons_of_mem _ (ih ha hb)

theorem exists_mem_runs (heven : bounds.size % 2 = 0) (h : inRuns bounds c = true) :
    ∃ r ∈ runs bounds.toList, r.1 ≤ c ∧ c < r.2 := by
  obtain ⟨k, hk, hcount, hlower, hupper⟩ := @countBelow_between bounds c 0 bounds.size bounds.size
    (Nat.sub_le ..) (Nat.zero_le _) (Nat.le_refl _) (.inl rfl) (.inl rfl)
  rw [inRuns, hcount, beq_iff_eq] at h
  obtain ⟨i, rfl⟩ : ∃ i, k = 2 * i + 1 := ⟨k / 2, by omega⟩
  have hlt : 2 * i + 1 < bounds.size := by omega
  refine ⟨(bounds[2 * i], bounds[2 * i + 1]), mem_runs (i := i) ?_ ?_, ?_, ?_⟩
  · simp [Nat.lt_of_succ_lt hlt]
  · simp [hlt]
  · have := hlower.resolve_left (by omega)
    simpa [Array.getD, Nat.lt_of_succ_lt hlt] using this
  · have := hupper.resolve_left (by omega)
    simpa [Array.getD, hlt] using this

end Runs

theorem exists_zero_of_isDecimal {c : Nat} (h : isDecimal c = true) :
    isAsciiDigit c = true ∨ 128 ≤ c ∧ ∃ z ∈ decimalZeros.toList, z ≤ c ∧ c < z + 10 := by
  unfold isDecimal decimalValue? at h
  split at h
  · split at h
    · next hdigit => exact .inl hdigit
    · cases h
  · rw [Option.isSome_map, Array.find?_isSome] at h
    obtain ⟨z, hz, hrange⟩ := h
    rw [Bool.and_eq_true, decide_eq_true_eq, decide_eq_true_eq] at hrange
    exact .inr ⟨by omega, z, Array.mem_toList_iff.mpr hz, hrange⟩

theorem isBlankCode_of_isDecimal {c : Nat} (h : isDecimal c = true) : isBlankCode c = false := by
  have hascii : ∀ k < 10, isBlankCode (48 + k) = false := by decide
  have hzeros : ∀ z ∈ decimalZeros.toList, ∀ k < 10, isBlankCode (z + k) = false := by decide +kernel
  obtain hdigit | ⟨-, z, hz, hlower, hupper⟩ := exists_zero_of_isDecimal h
  · simp only [isAsciiDigit, Bool.and_eq_true, decide_eq_true_eq] at hdigit
    have := hascii (c - 48) (by omega)
    rwa [show 48 + (c - 48) = c by omega] at this
  · have := hzeros z hz (c - z) (by omega)
    rwa [show z + (c - z) = c by omega] at this

theorem isIdentifierStart_of_isDecimal {c : Nat} (h : isDecimal c = true) : isIdentifierStart c = false := by
  have heven : identifierStartBounds.size % 2 = 0 := by decide +kernel
  have hapart : ((runs identifierStartBounds.toList).all fun r =>
      decimalZeros.toList.all fun z => Nat.ble (z + 10) r.1 || Nat.ble r.2 z) = true := by decide +kernel
  obtain hdigit | ⟨hc, z, hz, hlower, hupper⟩ := exists_zero_of_isDecimal h
  · simp only [isAsciiDigit, Bool.and_eq_true, decide_eq_true_eq] at hdigit
    rw [isIdentifierStart, if_pos (by omega)]
    simp [isAsciiLetter]
    omega
  · rw [isIdentifierStart, if_neg (by omega), Bool.eq_false_iff]
    intro hin
    obtain ⟨r, hr, hrlower, hrupper⟩ := exists_mem_runs heven hin
    have := List.all_eq_true.mp (List.all_eq_true.mp hapart r hr) z hz
    rw [Bool.or_eq_true, Nat.ble_eq, Nat.ble_eq] at this
    omega

theorem isIdentifierStart_of_isDigit {c : Nat} (h : isDigit c = true) : isIdentifierStart c = false := by
  have heven : identifierStartBounds.size % 2 = 0 := by decide +kernel
  have hapart : ((runs identifierStartBounds.toList).all fun r =>
      (runs specialDigitBounds.toList).all fun s => Nat.ble s.2 r.1 || Nat.ble r.2 s.1) = true := by decide +kernel
  have hbeyond : ((runs specialDigitBounds.toList).all fun s => Nat.ble 128 s.1) = true := by decide +kernel
  obtain hdecimal | hspecial := Bool.or_eq_true_iff.mp h
  · exact isIdentifierStart_of_isDecimal hdecimal
  · obtain ⟨s, hs, hlower, hupper⟩ := exists_mem_runs (by decide +kernel) hspecial
    have hfirst := Nat.ble_eq.mp (List.all_eq_true.mp hbeyond s hs)
    rw [isIdentifierStart, if_neg (by omega), Bool.eq_false_iff]
    intro hin
    obtain ⟨r, hr, hrlower, hrupper⟩ := exists_mem_runs heven hin
    have := List.all_eq_true.mp (List.all_eq_true.mp hapart r hr) s hs
    rw [Bool.or_eq_true, Nat.ble_eq, Nat.ble_eq] at this
    omega

end StackQuery.Text
