import StackQuery.Proofs.Query.Association
import StackQuery.Proofs.Query.Span

/-!
# Patterns that take no frame where they should

The terms of any pattern take the frames from the start up to the cursor after the tree, and this cursor is
never before the start nor outside the sample. So a pattern that no query is read as, such as a skip of an
absence, can violate the range of a match in one way only: it has a term that should take frames, and takes none
at the first start at which it matches.
-/
namespace StackQuery.Query

/-- The first start in a sample at which a node matches, and the cursor after the match there. -/
structure FirstMatch (frames : Sample) (node : Node) (start stop : Nat) : Prop where
  lt_length : start < frames.length
  matched : matchAt frames node start = some stop
  earlier : ∀ before < start, matchAt frames node before = none

variable {p : Pattern} {frames : Sample} {start stop : Nat}

theorem spanAt_terms_eq_some_iff {span : Nat × Nat} :
    spanAt p.terms frames start = some span ↔ span.1 = start ∧ matchAt frames p.root start = some span.2 := by
  obtain ⟨first, last⟩ := span
  rw [Pattern.terms, spanAt_flatten, Option.map_eq_some_iff]
  constructor
  · rintro ⟨stop, hmatch, hspan⟩
    cases hspan
    exact ⟨rfl, hmatch⟩
  · rintro ⟨rfl, hmatch⟩
    exact ⟨last, hmatch, rfl⟩

theorem spanAt_terms_eq_none_iff : spanAt p.terms frames start = none ↔ matchAt frames p.root start = none := by
  rw [Pattern.terms, spanAt_flatten, Option.map_eq_none_iff]

/-- What the terms of a pattern take is in order and in the sample. -/
theorem spanAt_terms_bounds {span : Nat × Nat} (hstart : start ≤ frames.length)
    (h : spanAt p.terms frames start = some span) : span.1 ≤ span.2 ∧ span.2 ≤ frames.length := by
  obtain ⟨hfirst, hmatch⟩ := spanAt_terms_eq_some_iff.mp h
  obtain ⟨hle, hend, -⟩ := matchAt_bounds hmatch hstart
  exact ⟨hfirst ▸ hle, hend⟩

theorem firstSpan_eq_some_iff_firstMatch :
    firstSpan p.terms frames frames.length 0 = some (start, stop) ↔ FirstMatch frames p.root start stop := by
  simp only [firstSpan_eq_some_iff, spanAt_terms_eq_some_iff, spanAt_terms_eq_none_iff, Nat.zero_add, Nat.zero_le,
    true_and, forall_const]
  constructor
  · rintro ⟨_, hlt, ⟨rfl, hmatch⟩, hearlier⟩
    exact ⟨hlt, hmatch, hearlier⟩
  · intro h
    exact ⟨start, h.lt_length, ⟨rfl, h.matched⟩, h.earlier⟩

theorem evaluate_of_firstMatch (hconsumes : p.consumes = true) (h : FirstMatch frames p.root start stop) :
    evaluate p frames =
      if start < stop then .ok ⟨true, some (start, stop)⟩
      else .error ⟨p.text, start, stop, frames.length⟩ := by
  obtain ⟨hle, hend, -⟩ := matchAt_bounds h.matched (Nat.le_of_lt h.lt_length)
  have hvalid : validSpan true frames.length (start, stop) = decide (start < stop) := by
    rw [Bool.eq_iff_iff, decide_eq_true_eq]
    simp only [validSpan, Bool.and_eq_true, decide_eq_true_eq, Bool.not_true, Bool.false_or, bne_iff_ne]
    omega
  simp only [evaluate, hconsumes, if_true, firstSpan_eq_some_iff_firstMatch.mpr h, hvalid, decide_eq_true_eq]
  rfl

theorem evaluate_of_no_match (hconsumes : p.consumes = true)
    (h : ∀ start < frames.length, matchAt frames p.root start = none) : evaluate p frames = .ok .unmatched := by
  have hnone : firstSpan p.terms frames frames.length 0 = none :=
    firstSpan_eq_none_iff.mpr fun start _ hlt =>
      spanAt_terms_eq_none_iff.mpr (h start (by rwa [Nat.zero_add] at hlt))
  simp only [evaluate, hconsumes, if_true, hnone]

theorem exists_firstMatch_or (frames : Sample) (p : Pattern) :
    (∃ start stop, FirstMatch frames p.root start stop) ∨
      ∀ start < frames.length, matchAt frames p.root start = none := by
  cases hspan : firstSpan p.terms frames frames.length 0 with
  | some span => exact .inl ⟨span.1, span.2, firstSpan_eq_some_iff_firstMatch.mp hspan⟩
  | none =>
    refine .inr fun start hlt => spanAt_terms_eq_none_iff.mp ?_
    exact firstSpan_eq_none_iff.mp hspan start (Nat.zero_le start) (by rwa [Nat.zero_add])

theorem evaluate_of_absences (h : p.consumes = false) (frames : Sample) :
    ∃ result, evaluate p frames = .ok result := by
  have hgrounded : p.Grounded := by
    intro t ht hpresent
    rw [Pattern.consumes_iff.mpr ⟨t, ht, hpresent⟩] at h
    cases h
  rcases evaluate_of_grounded hgrounded frames with hresult | ⟨_, _, hresult, -⟩ <;> exact ⟨_, hresult⟩

theorem evaluate_eq_error_iff {e : InvalidSpan} :
    evaluate p frames = .error e ↔
      p.consumes = true ∧
        ∃ start, FirstMatch frames p.root start start ∧ e = ⟨p.text, start, start, frames.length⟩ := by
  constructor
  · intro h
    cases hconsumes : p.consumes with
    | false =>
      obtain ⟨result, hresult⟩ := evaluate_of_absences hconsumes frames
      rw [hresult] at h
      cases h
    | true =>
      rcases exists_firstMatch_or frames p with ⟨start, stop, hfirst⟩ | hnone
      · rw [evaluate_of_firstMatch hconsumes hfirst] at h
        obtain ⟨hle, -, -⟩ := matchAt_bounds hfirst.matched (Nat.le_of_lt hfirst.lt_length)
        split at h
        · cases h
        · next hlt =>
          obtain rfl := Nat.le_antisymm (Nat.le_of_not_lt hlt) hle
          cases h
          exact ⟨rfl, _, hfirst, rfl⟩
      · rw [evaluate_of_no_match hconsumes hnone] at h
        cases h
  · rintro ⟨hconsumes, start, hfirst, rfl⟩
    rw [evaluate_of_firstMatch hconsumes hfirst, if_neg (Nat.lt_irrefl start)]

theorem evaluate_eq_ok_iff (hconsumes : p.consumes = true) :
    evaluate p frames = .ok ⟨true, some (start, stop)⟩ ↔ FirstMatch frames p.root start stop ∧ start < stop := by
  constructor
  · intro h
    rcases exists_firstMatch_or frames p with ⟨start', stop', hfirst⟩ | hnone
    · rw [evaluate_of_firstMatch hconsumes hfirst] at h
      split at h
      · next hlt =>
        simp only [Except.ok.injEq, MatchResult.mk.injEq, Option.some.injEq, Prod.mk.injEq, true_and,
          Int.ofNat_inj] at h
        obtain ⟨rfl, rfl⟩ := h
        exact ⟨hfirst, hlt⟩
      · cases h
    · rw [evaluate_of_no_match hconsumes hnone] at h
      cases h
  · rintro ⟨hfirst, hlt⟩
    rw [evaluate_of_firstMatch hconsumes hfirst, if_pos hlt]

/-- A match of any node ends in the sample and not before its cursor. So no start gives a span in reverse or
beyond the sample, and evaluation violates the range of a match exactly if a term should take frames and the
first start in the sample at which the pattern matches is also the cursor after it. If the cursor is further on,
these are the frames of the match. -/
theorem violation_iff_first_match_empty :
    (∀ (node : Node) (frames : Sample) (pos : Nat), pos ≤ frames.length →
      ∀ stop, matchAt frames node pos = some stop → pos ≤ stop ∧ stop ≤ frames.length) ∧
    (∀ (p : Pattern) (frames : Sample) (start : Nat), start ≤ frames.length →
      ∀ span, spanAt p.terms frames start = some span → span.1 ≤ span.2 ∧ span.2 ≤ frames.length) ∧
    (∀ (p : Pattern) (frames : Sample) (e : InvalidSpan), evaluate p frames = .error e ↔
      (∃ t ∈ p.terms, t.isAbsent = false) ∧
        ∃ start, FirstMatch frames p.root start start ∧ e = ⟨p.text, start, start, frames.length⟩) ∧
    ∀ (p : Pattern) (frames : Sample), (∃ t ∈ p.terms, t.isAbsent = false) → ∀ start stop : Nat,
      evaluate p frames = .ok ⟨true, some (start, stop)⟩ ↔ FirstMatch frames p.root start stop ∧ start < stop := by
  refine ⟨fun node frames pos hpos stop h => ?_, fun p frames start hstart span h => spanAt_terms_bounds hstart h,
    fun p frames e => ?_,
    fun p frames hpresent start stop => evaluate_eq_ok_iff (Pattern.consumes_iff.mpr hpresent)⟩
  · obtain ⟨hle, hend, -⟩ := matchAt_bounds h hpos
    exact ⟨hle, hend⟩
  · rw [evaluate_eq_error_iff, Pattern.consumes_iff]

/-- An absence under a skip holds past the last frame at the latest. So a pattern that ends with such a skip
takes the frames up to there, unless the absence holds at its first start already. -/
theorem violation_iff_first_match_empty_skip :
    let b : Node := .absent (.leaf "b" (· == "b"))
    let c : Node := .absent (.leaf "c" (· == "c"))
    let p : Pattern := ⟨"t", .seq b (.skip (.seq b c))⟩
    let cs : Sample := ["c", "c"]
    (1 ≤ cs.length ∧ matchAt cs (.skip c) 1 = some 2 ∧ 1 ≤ 2 ∧ 2 ≤ cs.length) ∧
      (0 ≤ cs.length ∧ spanAt p.terms cs 0 = some (0, 2) ∧ 0 ≤ 2 ∧ 2 ≤ cs.length) ∧
      (evaluate p ["b", "a"] = .error ⟨"t", 1, 1, 2⟩ ∧ FirstMatch ["b", "a"] p.root 1 1) ∧
      ((∃ t ∈ p.terms, t.isAbsent = false) ∧
        evaluate p ["b", "c", "a"] = .ok ⟨true, some (1, 2)⟩ ∧ FirstMatch ["b", "c", "a"] p.root 1 2) := by
  intro b c p cs
  obtain ⟨hcursor, hspan, herror, hok⟩ := violation_iff_first_match_empty
  have hskip : matchAt cs (.skip c) 1 = some 2 := by rfl
  have hwhole : spanAt p.terms cs 0 = some (0, 2) := by rfl
  have hpresent : ∃ t ∈ p.terms, t.isAbsent = false :=
    ⟨.skip (.seq b c), List.mem_cons_of_mem b List.mem_cons_self, rfl⟩
  have hempty : evaluate p ["b", "a"] = .error ⟨"t", 1, 1, 2⟩ := by rfl
  have htaken : evaluate p ["b", "c", "a"] = .ok ⟨true, some (1, 2)⟩ := by rfl
  refine ⟨⟨by decide, hskip, hcursor _ cs 1 (by decide) 2 hskip⟩,
    ⟨by decide, hwhole, hspan p cs 0 (by decide) _ hwhole⟩, ⟨hempty, ?_⟩,
    ⟨hpresent, htaken, ((hok p _ hpresent 1 2).mp htaken).1⟩⟩
  obtain ⟨-, start, hfirst, he⟩ := (herror p _ _).mp hempty
  cases he
  exact hfirst

end StackQuery.Query
