import StackQuery.Query.Match

/-!
# First hits

A skip looks for the first place at which its node matches, and a query for the first start from which
its terms match. Both searches try the places of a range in order. They find the least place that gives
something, and they fail exactly when no place of the range does.
-/
namespace StackQuery.Query

variable {α : Type}

/-- What is found in a range is given by its least place that gives something. -/
theorem findSome?_range'_eq_some_iff {f : Nat → Option α} {start count : Nat} {found : α} :
    (List.range' start count).findSome? f = some found ↔
      ∃ place, start ≤ place ∧ place < start + count ∧ f place = some found ∧
        ∀ earlier, start ≤ earlier → earlier < place → f earlier = none := by
  induction count generalizing start with
  | zero =>
    simp only [List.range'_zero, List.findSome?_nil, reduceCtorEq, false_iff, not_exists]
    omega
  | succ count ih =>
    rw [List.range'_succ, List.findSome?_cons]
    cases hstart : f start with
    | some value =>
      constructor
      · intro h
        refine ⟨start, Nat.le_refl start, by omega, hstart.trans h, fun earlier hle hlt => ?_⟩
        omega
      · rintro ⟨place, hle, -, hplace, hearlier⟩
        rcases Nat.eq_or_lt_of_le hle with rfl | hlt
        · rw [← hplace, hstart]
        · have hnone := hearlier start (Nat.le_refl start) hlt
          rw [hstart] at hnone
          cases hnone
    | none =>
      dsimp only
      rw [ih]
      constructor
      · rintro ⟨place, hle, hlt, hplace, hearlier⟩
        refine ⟨place, by omega, by omega, hplace, fun earlier hle' hlt' => ?_⟩
        rcases Nat.eq_or_lt_of_le hle' with rfl | hlt''
        · exact hstart
        · exact hearlier earlier hlt'' hlt'
      · rintro ⟨place, hle, hlt, hplace, hearlier⟩
        rcases Nat.eq_or_lt_of_le hle with rfl | hlt'
        · rw [hstart] at hplace
          cases hplace
        · exact ⟨place, hlt', by omega, hplace, fun earlier hle' => hearlier earlier (by omega)⟩

theorem findSome?_range'_eq_none_iff {f : Nat → Option α} {start count : Nat} :
    (List.range' start count).findSome? f = none ↔
      ∀ place, start ≤ place → place < start + count → f place = none := by
  simp only [List.findSome?_eq_none_iff, List.mem_range'_1, and_imp]

theorem firstFrom_eq_findSome? (attempt : Nat → Option Nat) (count i : Nat) :
    firstFrom attempt count i = (List.range' i count).findSome? attempt := by
  induction count generalizing i with
  | zero => rfl
  | succ count ih =>
    rw [firstFrom, List.range'_succ, List.findSome?_cons]
    cases attempt i with
    | some after => rfl
    | none => exact ih (i + 1)

theorem firstSpan_eq_findSome? (terms : List Node) (frames : Sample) (count start : Nat) :
    firstSpan terms frames count start = (List.range' start count).findSome? (spanAt terms frames) := by
  induction count generalizing start with
  | zero => rfl
  | succ count ih =>
    rw [firstSpan, List.range'_succ, List.findSome?_cons]
    cases spanAt terms frames start with
    | some span => rfl
    | none => exact ih (start + 1)

theorem firstFrom_eq_some_iff {attempt : Nat → Option Nat} {count i after : Nat} :
    firstFrom attempt count i = some after ↔
      ∃ place, i ≤ place ∧ place < i + count ∧ attempt place = some after ∧
        ∀ earlier, i ≤ earlier → earlier < place → attempt earlier = none := by
  rw [firstFrom_eq_findSome?, findSome?_range'_eq_some_iff]

theorem firstFrom_eq_none_iff {attempt : Nat → Option Nat} {count i : Nat} :
    firstFrom attempt count i = none ↔ ∀ place, i ≤ place → place < i + count → attempt place = none := by
  rw [firstFrom_eq_findSome?, findSome?_range'_eq_none_iff]

theorem firstSpan_eq_some_iff {terms : List Node} {frames : Sample} {count start : Nat} {span : Nat × Nat} :
    firstSpan terms frames count start = some span ↔
      ∃ place, start ≤ place ∧ place < start + count ∧ spanAt terms frames place = some span ∧
        ∀ earlier, start ≤ earlier → earlier < place → spanAt terms frames earlier = none := by
  rw [firstSpan_eq_findSome?, findSome?_range'_eq_some_iff]

theorem firstSpan_eq_none_iff {terms : List Node} {frames : Sample} {count start : Nat} :
    firstSpan terms frames count start = none ↔
      ∀ place, start ≤ place → place < start + count → spanAt terms frames place = none := by
  rw [firstSpan_eq_findSome?, findSome?_range'_eq_none_iff]

end StackQuery.Query
