import StackQuery.Proofs.Query.Search
import StackQuery.Proofs.Query.Terms

/-!
# Spans of matches

No match moves the cursor back or out of the frames, and in an accepted query every term but an absence
moves it on. So a match of such a query takes a range of frames that is not empty, unless the query is
made of absences alone.
-/
namespace StackQuery

theorem slice_range {α : Type} (xs : List α) (start stop : Nat) :
    slice xs (some start) (some stop) = (xs.take stop).drop start := by
  have hneg (n : Nat) : ¬ ((n : Int) < 0) := by omega
  have htake : xs.take (min stop xs.length) = xs.take stop := by
    rcases Nat.le_total stop xs.length with h | h
    · rw [Nat.min_eq_left h]
    · rw [Nat.min_eq_right h, List.take_length, List.take_of_length_le h]
  simp only [slice, Option.map_some, Option.getD_some, hneg, if_false, Int.toNat_natCast, htake]
  rcases Nat.le_total start xs.length with h | h
  · rw [Nat.min_eq_left h]
  · have hlength : (xs.take stop).length ≤ xs.length := List.length_take_le' stop xs
    rw [Nat.min_eq_right h, List.drop_eq_nil_of_le hlength, List.drop_eq_nil_of_le (Nat.le_trans hlength h)]

theorem slice_append_slice {α : Type} (xs : List α) {start stop : Nat} (h : start ≤ stop) :
    slice xs none (some start) ++ slice xs (some start) (some stop) ++ slice xs (some stop) none = xs := by
  have htake : xs.take start = (xs.take stop).take start := by rw [List.take_take, Nat.min_eq_left h]
  rw [slice_take, slice_range, slice_drop, htake, List.take_append_drop, List.take_append_drop]

namespace Query

/-- Every match of the node takes a frame. -/
def Node.takesFrame : Node → Bool
  | .leaf .. | .any => true
  | .seq left right => left.takesFrame || right.takesFrame
  | .skip inner => inner.takesFrame
  | .absent _ => false

/-- Every term that is no absence takes a frame. -/
def Pattern.Grounded (p : Pattern) : Prop := ∀ t ∈ p.terms, t.isAbsent = false → t.takesFrame = true

theorem Pattern.consumes_iff {p : Pattern} : p.consumes = true ↔ ∃ t ∈ p.terms, t.isAbsent = false := by
  simp only [consumes, List.any_eq_true, Bool.not_eq_true']

/-- A match ends in the frames, not before its cursor, and past it if the node takes a frame. -/
theorem matchAt_bounds {frames : Sample} {node : Node} {i j : Nat} (h : matchAt frames node i = some j)
    (hi : i ≤ frames.length) : i ≤ j ∧ j ≤ frames.length ∧ (node.takesFrame = true → i < j) := by
  induction node generalizing i j with
  | leaf text accepts =>
    rw [matchAt] at h
    cases hframe : frames[i]? with
    | none =>
      rw [hframe] at h
      cases h
    | some frame =>
      have hlt : i < frames.length := (List.getElem?_eq_some_iff.mp hframe).1
      simp only [hframe, Option.ite_none_right_eq_some, Option.some.injEq] at h
      omega
  | any =>
    simp only [matchAt, Option.ite_none_right_eq_some, Option.some.injEq] at h
    omega
  | seq left right ihl ihr =>
    rw [matchAt] at h
    cases hleft : matchAt frames left i with
    | none =>
      rw [hleft] at h
      cases h
    | some after =>
      rw [hleft] at h
      obtain ⟨hle, hend, hlt⟩ := ihl hleft hi
      obtain ⟨hle', hend', hlt'⟩ := ihr h hend
      refine ⟨Nat.le_trans hle hle', hend', fun htakes => ?_⟩
      rw [Node.takesFrame, Bool.or_eq_true] at htakes
      rcases htakes with htakes | htakes
      · exact Nat.lt_of_lt_of_le (hlt htakes) hle'
      · exact Nat.lt_of_le_of_lt hle (hlt' htakes)
  | skip inner ih =>
    obtain ⟨start, hle, hlt, hstart, -⟩ := firstFrom_eq_some_iff.mp h
    obtain ⟨hle', hend, htakes⟩ := ih hstart (by omega)
    exact ⟨Nat.le_trans hle hle', hend, fun hinner => Nat.lt_of_le_of_lt hle (htakes hinner)⟩
  | absent inner =>
    simp only [matchAt, Option.ite_none_right_eq_some, Option.some.injEq] at h
    obtain ⟨-, rfl⟩ := h
    exact ⟨Nat.le_refl i, hi, fun htakes => by cases htakes⟩

/-- How far a chain can have come from a start on, in a sample of a length: no frame is taken yet, or
those from the start up to the cursor are. -/
inductive Reach.Spans (length start : Nat) : Reach → Prop where
  | fresh : Spans length start ⟨start, none, start⟩
  | taken {last : Nat} (lt : start < last) (le : last ≤ length) : Spans length start ⟨last, some start, last⟩

variable {frames : Sample} {start : Nat}

/-- What one more term keeps. The first frame is taken by the first term that is no absence. -/
theorem advance_spans {term : Node} {r r' : Reach} (hterm : term.isAbsent = false → term.takesFrame = true)
    (hstart : start ≤ frames.length) (hr : r.Spans frames.length start)
    (h : advance frames term r = some r') :
    r'.Spans frames.length start ∧ r'.first.isSome = (r.first.isSome || !term.isAbsent) := by
  rw [advance] at h
  cases hmatch : matchAt frames term r.cursor with
  | none =>
    rw [hmatch] at h
    cases h
  | some after =>
    rw [hmatch] at h
    cases habsent : term.isAbsent with
    | true =>
      simp only [habsent, if_true, Option.some.injEq] at h
      subst h
      exact ⟨hr, by simp⟩
    | false =>
      simp only [habsent, Bool.false_eq_true, if_false, Option.some.injEq] at h
      subst h
      refine ⟨?_, by simp⟩
      cases hr with
      | fresh =>
        obtain ⟨-, hend, hlt⟩ := matchAt_bounds hmatch hstart
        exact .taken (hlt (hterm habsent)) hend
      | taken lt le =>
        obtain ⟨hle, hend, -⟩ := matchAt_bounds hmatch le
        exact .taken (Nat.lt_of_lt_of_le lt hle) hend

theorem advanceAll_spans {terms : List Node} {r r' : Reach}
    (hterms : ∀ t ∈ terms, t.isAbsent = false → t.takesFrame = true) (hstart : start ≤ frames.length)
    (hr : r.Spans frames.length start) (h : advanceAll frames terms r = some r') :
    r'.Spans frames.length start ∧ r'.first.isSome = (r.first.isSome || terms.any (!·.isAbsent)) := by
  induction terms generalizing r with
  | nil =>
    cases h
    exact ⟨hr, by simp⟩
  | cons term rest ih =>
    rw [advanceAll] at h
    cases hone : advance frames term r with
    | none =>
      rw [hone] at h
      cases h
    | some r₁ =>
      rw [hone] at h
      obtain ⟨hr₁, hfirst₁⟩ := advance_spans (hterms term List.mem_cons_self) hstart hr hone
      obtain ⟨hr', hfirst'⟩ := ih (fun t ht => hterms t (List.mem_cons_of_mem _ ht)) hr₁ h
      refine ⟨hr', ?_⟩
      rw [hfirst', hfirst₁, List.any_cons, Bool.or_assoc]

/-- A chain that matches takes the frames from its start on, up to one past it, or none if it is made of
absences alone. -/
theorem spanAt_eq_some {terms : List Node} {span : Nat × Nat}
    (hterms : ∀ t ∈ terms, t.isAbsent = false → t.takesFrame = true) (hstart : start ≤ frames.length)
    (h : spanAt terms frames start = some span) :
    span.1 = start ∧
      if terms.any (!·.isAbsent) then start < span.2 ∧ span.2 ≤ frames.length else span.2 = start := by
  obtain ⟨r, hr, rfl⟩ := Option.map_eq_some_iff.mp h
  obtain ⟨hspans, hfirst⟩ := advanceAll_spans hterms hstart .fresh hr
  change r.first.isSome = (false || terms.any (!·.isAbsent)) at hfirst
  rw [Bool.false_or] at hfirst
  rw [← hfirst]
  cases hspans with
  | fresh => exact ⟨rfl, rfl⟩
  | taken lt le => exact ⟨rfl, lt, le⟩

/-- A pattern whose terms take frames is evaluated without a violation, and gives a range of frames. -/
theorem evaluate_of_grounded {p : Pattern} (hp : p.Grounded) (frames : Sample) :
    evaluate p frames = .ok .unmatched ∨
      ∃ start stop : Nat, evaluate p frames = .ok ⟨true, some (start, stop)⟩ ∧
        if p.consumes then start < stop ∧ stop ≤ frames.length else start = 0 ∧ stop = 0 := by
  cases hspan : firstSpan p.terms frames (if p.consumes then frames.length else 1) 0 with
  | none => exact .inl (by simp only [evaluate, hspan])
  | some span =>
    obtain ⟨place, -, hlt, hplace, -⟩ := firstSpan_eq_some_iff.mp hspan
    have hend : place ≤ frames.length := by
      by_cases hc : p.consumes = true
      · rw [if_pos hc] at hlt
        omega
      · rw [if_neg hc] at hlt
        omega
    obtain ⟨hstart, hstop⟩ := spanAt_eq_some hp hend hplace
    have hrange : if p.consumes then span.1 < span.2 ∧ span.2 ≤ frames.length
        else span.1 = 0 ∧ span.2 = 0 := by
      change if p.consumes = true then _ else _ at hstop
      by_cases hc : p.consumes = true
      · rw [if_pos hc] at hstop ⊢
        exact hstart ▸ hstop
      · rw [if_neg hc] at hlt hstop ⊢
        omega
    have hvalid : validSpan p.consumes frames.length span = true := by
      cases hc : p.consumes with
      | true =>
        rw [hc, if_pos rfl] at hrange
        simp only [validSpan, Bool.and_eq_true, decide_eq_true_eq, bne_iff_ne, Bool.not_true,
          Bool.false_or]
        omega
      | false =>
        rw [hc, if_neg (by simp)] at hrange
        simp [validSpan, hrange.1, hrange.2]
    have hevaluate : evaluate p frames = .ok ⟨true, some (span.1, span.2)⟩ := by
      simp only [evaluate, hspan, hvalid, if_true]
      rfl
    exact .inr ⟨span.1, span.2, hevaluate, hrange⟩

/-- A skip of an absence, which no query is read as, may match without a frame. -/
example : evaluate ⟨"ast", .skip (.absent (.leaf "b" (· == "b")))⟩ ["a"] = .error ⟨"ast", 0, 0, 1⟩ := by rfl

theorem Node.IsTerm.takesFrame {term : Node} (h : term.IsTerm) (hpresent : term.isAbsent = false) :
    term.takesFrame = true := by
  have hatom {atom : Node} (ha : atom.isAtom = true) : atom.takesFrame = true := by
    cases atom <;> first | rfl | cases ha
  cases h with
  | atom isAtom => exact hatom isAtom
  | skip isAtom =>
    rw [Node.takesFrame]
    exact hatom isAtom
  | absent | absentSkip => cases hpresent

theorem grounded_of_parseIn {σ : Type} {compile : Compiler σ} {query : String} {store : σ} {p : Pattern}
    (h : (parseIn compile query store).1 = .ok p) : p.Grounded :=
  fun t ht => (isTerm_of_parseIn h t ht).takesFrame

end Query

end StackQuery
