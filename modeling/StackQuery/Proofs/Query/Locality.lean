import StackQuery.Proofs.Query.Assignment

/-!
# Matches in a part of a sample

Whether terms match from a start on is decided by the frames from the start on. So a match moves with
frames that are put in front of the sample, unless they bring one that starts among them. A query without
absences looks no further than the last frame it takes. So it still matches where the frames behind a match
are cut off, and where others are added.
-/
namespace StackQuery.Query

variable {frames : Sample}

theorem firstFrom_add {attempt moved : Nat → Option Nat} {n : Nat}
    (h : ∀ i, moved (n + i) = (attempt i).map (n + ·)) (count i : Nat) :
    firstFrom moved count (n + i) = (firstFrom attempt count i).map (n + ·) := by
  induction count generalizing i with
  | zero => rfl
  | succ count ih =>
    rw [firstFrom, firstFrom, h]
    cases attempt i with
    | some after => rfl
    | none => exact ih (i + 1)

/-- Behind other frames a node matches as it does without them, whatever the node. -/
theorem matchAt_append_right (before frames : Sample) (node : Node) (i : Nat) :
    matchAt (before ++ frames) node (before.length + i) = (matchAt frames node i).map (before.length + ·) := by
  induction node generalizing i with
  | leaf text accepts =>
    rw [matchAt, matchAt, List.getElem?_append_right (Nat.le_add_right _ _), Nat.add_sub_cancel_left]
    cases frames[i]? with
    | none => rfl
    | some frame =>
      dsimp only
      cases accepts frame <;> rfl
  | any =>
    rw [matchAt, matchAt, List.length_append]
    by_cases h : i < frames.length
    · rw [if_pos h, if_pos (Nat.add_lt_add_left h _)]
      rfl
    · rw [if_neg h, if_neg (by omega)]
      rfl
  | seq left right ihl ihr =>
    rw [matchAt, matchAt, ihl]
    cases matchAt frames left i with
    | none => rfl
    | some after => exact ihr after
  | skip inner ih =>
    have hcount : (before ++ frames).length + 1 - (before.length + i) = frames.length + 1 - i := by
      rw [List.length_append]
      omega
    rw [matchAt, matchAt, hcount, firstFrom_add ih]
  | absent inner ih =>
    rw [matchAt, matchAt, ih, Option.isNone_map]
    cases (matchAt frames inner i).isNone <;> rfl

/-- How far a chain has come, with more frames in front. -/
def Reach.shift (n : Nat) (r : Reach) : Reach := ⟨n + r.cursor, r.first.map (n + ·), n + r.last⟩

theorem advance_append_right (before frames : Sample) (term : Node) (r : Reach) :
    advance (before ++ frames) term (r.shift before.length) =
      (advance frames term r).map (Reach.shift before.length) := by
  have hcursor : (r.shift before.length).cursor = before.length + r.cursor := rfl
  rw [advance, advance, hcursor, matchAt_append_right]
  cases matchAt frames term r.cursor with
  | none => rfl
  | some after =>
    cases term.isAbsent with
    | true => rfl
    | false =>
      obtain ⟨cursor, first, last⟩ := r
      cases first <;> rfl

theorem advanceAll_append_right (before frames : Sample) (terms : List Node) (r : Reach) :
    advanceAll (before ++ frames) terms (r.shift before.length) =
      (advanceAll frames terms r).map (Reach.shift before.length) := by
  induction terms generalizing r with
  | nil => rfl
  | cons term rest ih =>
    rw [advanceAll, advanceAll, advance_append_right]
    cases advance frames term r with
    | none => rfl
    | some r => exact ih r

/-- Terms that match from a start on match behind other frames, and take the same frames there. -/
theorem spanAt_append_right (terms : List Node) (before frames : Sample) (start : Nat) :
    spanAt terms (before ++ frames) (before.length + start) =
      (spanAt terms frames start).map fun span => (before.length + span.1, before.length + span.2) := by
  have hstart : Reach.start (before.length + start) = (Reach.start start).shift before.length := rfl
  rw [spanAt, spanAt, hstart, advanceAll_append_right]
  cases advanceAll frames terms (.start start) with
  | none => rfl
  | some r =>
    obtain ⟨cursor, first, last⟩ := r
    cases first <;> rfl

theorem spanAt_drop {terms : List Node} {start stop : Nat} (hstart : start ≤ frames.length) :
    spanAt terms (frames.drop start) 0 = some (0, stop) ↔
      spanAt terms frames start = some (start, start + stop) := by
  have hlength : (frames.take start).length = start := List.length_take_of_le hstart
  have happend := spanAt_append_right terms (frames.take start) (frames.drop start) 0
  rw [List.take_append_drop, hlength, Nat.add_zero] at happend
  rw [happend]
  cases spanAt terms (frames.drop start) 0 <;> simp [Prod.ext_iff]

theorem holds_append_iff (after : Sample) {atom : Node} {i : Nat} :
    Holds frames atom i ↔ Holds (frames ++ after) atom i ∧ i < frames.length := by
  constructor
  · intro h
    have hlt := h.lt_length
    obtain ⟨frame, hframe, hadmits⟩ := h
    exact ⟨⟨frame, by rwa [List.getElem?_append_left hlt], hadmits⟩, hlt⟩
  · rintro ⟨⟨frame, hframe, hadmits⟩, hlt⟩
    rw [List.getElem?_append_left hlt] at hframe
    exact ⟨frame, hframe, hadmits⟩

/-- A term that is no absence matches in the front of a sample exactly as it does in the whole sample, if it
takes no frame behind that front. -/
theorem matchAt_append_left_iff {term : Node} (hterm : term.IsTerm) (hpresent : term.isAbsent = false)
    (after : Sample) {i j : Nat} :
    matchAt frames term i = some j ↔ matchAt (frames ++ after) term i = some j ∧ j ≤ frames.length := by
  cases hterm with
  | atom isAtom =>
    rw [matchAt_atom_eq_some_iff isAtom, matchAt_atom_eq_some_iff isAtom, holds_append_iff after]
    constructor
    · rintro ⟨⟨holds, hlt⟩, rfl⟩
      exact ⟨⟨holds, rfl⟩, hlt⟩
    · rintro ⟨⟨holds, rfl⟩, hle⟩
      exact ⟨⟨holds, hle⟩, rfl⟩
  | skip isAtom =>
    rw [matchAt_skip_eq_some_iff isAtom, matchAt_skip_eq_some_iff isAtom]
    constructor
    · rintro ⟨found, hle, holds, rfl, hearlier⟩
      obtain ⟨holds, hlt⟩ := (holds_append_iff after).mp holds
      refine ⟨⟨found, hle, holds, rfl, fun earlier hge hearly hholds => ?_⟩, hlt⟩
      exact hearlier earlier hge hearly ((holds_append_iff after).mpr ⟨hholds, Nat.lt_trans hearly hlt⟩)
    · rintro ⟨⟨found, hle, holds, rfl, hearlier⟩, hlt⟩
      refine ⟨found, hle, (holds_append_iff after).mpr ⟨holds, hlt⟩, rfl, fun earlier hge hearly hholds => ?_⟩
      exact hearlier earlier hge hearly ((holds_append_iff after).mp hholds).1
  | absent | absentSkip => cases hpresent

theorem advance_append_left_iff {term : Node} (hterm : term.IsTerm) (hpresent : term.isAbsent = false)
    (after : Sample) {r r' : Reach} :
    advance frames term r = some r' ↔ advance (frames ++ after) term r = some r' ∧ r'.cursor ≤ frames.length := by
  have hmatch {stop : Nat} : matchAt frames term r.cursor = some stop ↔
      matchAt (frames ++ after) term r.cursor = some stop ∧ stop ≤ frames.length :=
    matchAt_append_left_iff hterm hpresent after
  rw [advance_eq_some_iff, advance_eq_some_iff, hpresent]
  constructor
  · rintro ⟨stop, hfront, rfl⟩
    obtain ⟨hwhole, hle⟩ := hmatch.mp hfront
    exact ⟨⟨stop, hwhole, rfl⟩, hle⟩
  · rintro ⟨⟨stop, hwhole, rfl⟩, hle⟩
    exact ⟨stop, hmatch.mpr ⟨hwhole, hle⟩, rfl⟩

/-- What one term does to the cursor: it stays in the frames and does not move back; while no frame is behind
it that was taken, it is where the last frame taken ends. -/
theorem cursor_of_advance {term : Node} {r r' : Reach} (h : advance frames term r = some r')
    (hcursor : r.cursor ≤ frames.length) :
    r.cursor ≤ r'.cursor ∧ r'.cursor ≤ frames.length ∧ (r.last = r.cursor → r'.last = r'.cursor) := by
  obtain ⟨after, hmatch, rfl⟩ := advance_eq_some_iff.mp h
  obtain ⟨hle, hend, -⟩ := matchAt_bounds hmatch hcursor
  cases term.isAbsent with
  | true => exact ⟨Nat.le_refl _, hcursor, id⟩
  | false => exact ⟨hle, hend, fun _ => rfl⟩

theorem cursor_of_advanceAll {terms : List Node} {r r' : Reach} (h : advanceAll frames terms r = some r')
    (hcursor : r.cursor ≤ frames.length) :
    r.cursor ≤ r'.cursor ∧ r'.cursor ≤ frames.length ∧ (r.last = r.cursor → r'.last = r'.cursor) := by
  induction terms generalizing r with
  | nil =>
    cases h
    exact ⟨Nat.le_refl _, hcursor, id⟩
  | cons term rest ih =>
    rw [advanceAll] at h
    cases hone : advance frames term r with
    | none =>
      rw [hone] at h
      cases h
    | some r₁ =>
      rw [hone] at h
      obtain ⟨hle, hend, hlast⟩ := cursor_of_advance hone hcursor
      obtain ⟨hle', hend', hlast'⟩ := ih h hend
      exact ⟨Nat.le_trans hle hle', hend', hlast' ∘ hlast⟩

/-- A chain without absences comes as far in the front of a sample as in the whole sample, if it stays in the
front. -/
theorem advanceAll_append_left_iff {terms : List Node} (hterms : ∀ t ∈ terms, t.IsTerm)
    (hpresent : ∀ t ∈ terms, t.isAbsent = false) (after : Sample) {r r' : Reach}
    (hcursor : r.cursor ≤ frames.length) :
    advanceAll frames terms r = some r' ↔
      advanceAll (frames ++ after) terms r = some r' ∧ r'.cursor ≤ frames.length := by
  induction terms generalizing r with
  | nil =>
    constructor
    · rintro ⟨⟩
      exact ⟨rfl, hcursor⟩
    · exact fun h => h.1
  | cons term rest ih =>
    obtain ⟨hterm, hrest⟩ := List.forall_mem_cons.mp hterms
    obtain ⟨hpresentTerm, hpresentRest⟩ := List.forall_mem_cons.mp hpresent
    have hone {r₁ : Reach} : advance frames term r = some r₁ ↔
        advance (frames ++ after) term r = some r₁ ∧ r₁.cursor ≤ frames.length :=
      advance_append_left_iff hterm hpresentTerm after
    rw [advanceAll, advanceAll]
    constructor
    · intro h
      cases hfirst : advance frames term r with
      | none =>
        rw [hfirst] at h
        cases h
      | some r₁ =>
        rw [hfirst] at h
        obtain ⟨hwhole, hle⟩ := hone.mp hfirst
        rw [hwhole]
        exact (ih hrest hpresentRest hle).mp h
    · rintro ⟨h, hle⟩
      cases hfirst : advance (frames ++ after) term r with
      | none =>
        rw [hfirst] at h
        cases h
      | some r₁ =>
        rw [hfirst] at h
        -- the cursor does not move back, so the first term stays in the front as well
        have hcursor' : r.cursor ≤ (frames ++ after).length := by
          rw [List.length_append]
          omega
        obtain ⟨-, hend, -⟩ := cursor_of_advance hfirst hcursor'
        have hle₁ : r₁.cursor ≤ frames.length := Nat.le_trans (cursor_of_advanceAll h hend).1 hle
        rw [hone.mpr ⟨hfirst, hle₁⟩]
        exact (ih hrest hpresentRest hle₁).mpr ⟨h, hle⟩

/-- Terms without absences match in the front of a sample where they match in the whole sample and take no
frame behind that front. -/
theorem spanAt_append_left_iff {terms : List Node} (hterms : ∀ t ∈ terms, t.IsTerm)
    (hpresent : ∀ t ∈ terms, t.isAbsent = false) (after : Sample) {start : Nat} (hstart : start ≤ frames.length)
    {span : Nat × Nat} :
    spanAt terms frames start = some span ↔
      spanAt terms (frames ++ after) start = some span ∧ span.2 ≤ frames.length := by
  have hwhole : start ≤ (frames ++ after).length := by
    rw [List.length_append]
    omega
  simp only [spanAt, Option.map_eq_some_iff,
    advanceAll_append_left_iff hterms hpresent after (r := .start start) hstart]
  constructor
  · rintro ⟨r, ⟨hr, hle⟩, rfl⟩
    have hlast : r.last = r.cursor := (cursor_of_advanceAll hr hwhole).2.2 rfl
    exact ⟨⟨r, hr, rfl⟩, hlast ▸ hle⟩
  · rintro ⟨⟨r, hr, rfl⟩, hle⟩
    have hlast : r.last = r.cursor := (cursor_of_advanceAll hr hwhole).2.2 rfl
    exact ⟨r, ⟨hr, hlast ▸ hle⟩, rfl⟩

variable {p : Pattern} {start stop : Nat}

/-- A query matches with the span from the least start at which its terms match. -/
theorem evaluate_eq_matched_iff (hp : p.Grounded) (hc : p.consumes = true) :
    evaluate p frames = .ok ⟨true, some ((start : Int), (stop : Int))⟩ ↔
      start < frames.length ∧ spanAt p.terms frames start = some (start, stop) ∧
        ∀ earlier < start, spanAt p.terms frames earlier = none := by
  have hleast {start stop : Nat} (h : evaluate p frames = .ok ⟨true, some ((start : Int), (stop : Int))⟩) :
      start < frames.length ∧ spanAt p.terms frames start = some (start, stop) ∧
        ∀ earlier < start, spanAt p.terms frames earlier = none := by
    obtain ⟨first, last, hspan, hfirst⟩ := spanAt_of_matched hp hc h rfl
    simp only [Option.some.injEq, Prod.mk.injEq, Int.natCast_inj] at hspan
    obtain ⟨rfl, rfl⟩ := hspan
    exact hfirst
  refine ⟨hleast, ?_⟩
  rintro ⟨hlt, hspan, hearlier⟩
  obtain ⟨first, last, hmatched⟩ := matched_of_spanAt hp hc hlt hspan
  obtain ⟨-, hfirst, hearlier'⟩ := hleast hmatched
  rcases Nat.lt_trichotomy first start with h | rfl | h
  · rw [hearlier first h] at hfirst
    cases hfirst
  · rw [hspan] at hfirst
    cases hfirst
    exact hmatched
  · rw [hearlier' start h] at hspan
    cases hspan

theorem bounds_of_spanAt (hp : p.Grounded) (hc : p.consumes = true) (hlt : start < frames.length)
    (h : spanAt p.terms frames start = some (start, stop)) : start < stop ∧ stop ≤ frames.length := by
  have hbounds := (spanAt_eq_some hp (Nat.le_of_lt hlt) h).2
  rwa [show p.terms.any (!·.isAbsent) = true from hc, if_pos rfl] at hbounds

/-- A query matches with a span that starts no later than where its terms match. -/
theorem exists_evaluate_of_spanAt (hp : p.Grounded) (hc : p.consumes = true) (hlt : start < frames.length)
    (h : spanAt p.terms frames start = some (start, stop)) :
    ∃ first last : Nat, evaluate p frames = .ok ⟨true, some ((first : Int), (last : Int))⟩ ∧ first ≤ start := by
  obtain ⟨first, last, hmatched⟩ := matched_of_spanAt hp hc hlt h
  refine ⟨first, last, hmatched, Nat.le_of_not_lt fun hearly => ?_⟩
  rw [((evaluate_eq_matched_iff hp hc).mp hmatched).2.2 start hearly] at h
  cases h

theorem evaluate_drop (hp : p.Grounded) (hc : p.consumes = true)
    (h : evaluate p frames = .ok ⟨true, some ((start : Int), (stop : Int))⟩) :
    evaluate p (frames.drop start) = .ok ⟨true, some (((0 : Nat) : Int), ((stop - start : Nat) : Int))⟩ := by
  obtain ⟨hlt, hspan, -⟩ := (evaluate_eq_matched_iff hp hc).mp h
  have hstop := bounds_of_spanAt hp hc hlt hspan
  refine (evaluate_eq_matched_iff hp hc).mpr ⟨?_, ?_, by simp⟩
  · rw [List.length_drop]
    omega
  · rw [spanAt_drop (Nat.le_of_lt hlt), hspan, Nat.add_sub_cancel' (Nat.le_of_lt hstop.1)]

theorem exists_evaluate_append_right (hp : p.Grounded) (hc : p.consumes = true) (before : Sample)
    (h : evaluate p frames = .ok ⟨true, some ((start : Int), (stop : Int))⟩) :
    ∃ first last : Nat, evaluate p (before ++ frames) = .ok ⟨true, some ((first : Int), (last : Int))⟩ ∧
      (first = before.length + start ∧ last = before.length + stop ∨ first < before.length) := by
  obtain ⟨hlt, hspan, hearlier⟩ := (evaluate_eq_matched_iff hp hc).mp h
  have hmoved : spanAt p.terms (before ++ frames) (before.length + start) =
      some (before.length + start, before.length + stop) := by
    rw [spanAt_append_right, hspan, Option.map_some]
  have hend : before.length + start < (before ++ frames).length := by
    rw [List.length_append]
    omega
  obtain ⟨first, last, hmatched, hle⟩ := exists_evaluate_of_spanAt hp hc hend hmoved
  refine ⟨first, last, hmatched, ?_⟩
  rcases Nat.lt_or_ge first before.length with hin | hin
  · exact .inr hin
  -- A match behind the frames in front is one of the sample, so it is not earlier than that of the sample.
  obtain ⟨place, rfl⟩ := Nat.exists_eq_add_of_le hin
  obtain ⟨-, hfirst, -⟩ := (evaluate_eq_matched_iff hp hc).mp hmatched
  rw [spanAt_append_right] at hfirst
  obtain ⟨span, hplace, hspan'⟩ := Option.map_eq_some_iff.mp hfirst
  have hnotEarlier : start ≤ place := by
    refine Nat.le_of_not_lt fun hearly => ?_
    rw [hearlier place hearly] at hplace
    cases hplace
  obtain rfl : place = start := by omega
  rw [hspan] at hplace
  cases hplace
  exact .inl ⟨rfl, (congrArg Prod.snd hspan').symm⟩

theorem evaluate_take (hterms : ∀ t ∈ p.terms, t.IsTerm) (hpresent : ∀ t ∈ p.terms, t.isAbsent = false)
    (hp : p.Grounded) (hc : p.consumes = true)
    (h : evaluate p frames = .ok ⟨true, some ((start : Int), (stop : Int))⟩) :
    evaluate p (frames.take stop) = .ok ⟨true, some ((start : Int), (stop : Int))⟩ := by
  obtain ⟨hlt, hspan, hearlier⟩ := (evaluate_eq_matched_iff hp hc).mp h
  have hstop := bounds_of_spanAt hp hc hlt hspan
  have hlength : (frames.take stop).length = stop := List.length_take_of_le hstop.2
  have hfront {place : Nat} (hplace : place ≤ stop) {span : Nat × Nat} :
      spanAt p.terms (frames.take stop) place = some span ↔
        spanAt p.terms frames place = some span ∧ span.2 ≤ stop := by
    have hiff : spanAt p.terms (frames.take stop) place = some span ↔
        spanAt p.terms (frames.take stop ++ frames.drop stop) place = some span ∧
          span.2 ≤ (frames.take stop).length :=
      spanAt_append_left_iff hterms hpresent (frames.drop stop) (hlength.symm ▸ hplace)
    rwa [List.take_append_drop, hlength] at hiff
  refine (evaluate_eq_matched_iff hp hc).mpr ⟨hlength.symm ▸ hstop.1, ?_, fun earlier hearly => ?_⟩
  · exact (hfront (Nat.le_of_lt hstop.1)).mpr ⟨hspan, Nat.le_refl stop⟩
  · rw [Option.eq_none_iff_forall_ne_some]
    intro span hspan'
    have hwhole := ((hfront (Nat.le_of_lt (Nat.lt_trans hearly hstop.1))).mp hspan').1
    rw [hearlier earlier hearly] at hwhole
    cases hwhole

theorem exists_evaluate_append_left (hterms : ∀ t ∈ p.terms, t.IsTerm)
    (hpresent : ∀ t ∈ p.terms, t.isAbsent = false) (hp : p.Grounded) (hc : p.consumes = true) (after : Sample)
    (h : evaluate p frames = .ok ⟨true, some ((start : Int), (stop : Int))⟩) :
    ∃ first last : Nat, evaluate p (frames ++ after) = .ok ⟨true, some ((first : Int), (last : Int))⟩ ∧
      first ≤ start := by
  obtain ⟨hlt, hspan, -⟩ := (evaluate_eq_matched_iff hp hc).mp h
  have hend : start < (frames ++ after).length := by
    rw [List.length_append]
    omega
  exact exists_evaluate_of_spanAt hp hc hend
    ((spanAt_append_left_iff hterms hpresent after (Nat.le_of_lt hlt)).mp hspan).1

/-- Matching is local. The frames from the start of a match on match from their first frame on, and so does
the sample behind other frames, unless a match starts among these. If no term of the query is an absence, the
frames up to the end of a match have the same match, and the sample with other frames behind it has one that
starts no later. -/
theorem match_found_in_parts {σ : Type} (compile : Compiler σ) (store : σ) (query : String) (p : Pattern)
    (h : (parseIn compile query store).1 = .ok p) (hterm : ∃ t ∈ p.terms, t.isAbsent = false) (frames : Sample)
    (start stop : Int) (hmatched : evaluate p frames = .ok ⟨true, some (start, stop)⟩) :
    (evaluate p (slice frames (some start) none) = .ok ⟨true, some (0, stop - start)⟩ ∧
      ∀ before : Sample, ∃ first last : Int, evaluate p (before ++ frames) = .ok ⟨true, some (first, last)⟩ ∧
        (first = start + before.length ∧ last = stop + before.length ∨ 0 ≤ first ∧ first < before.length)) ∧
    ((∀ t ∈ p.terms, t.isAbsent = false) →
      evaluate p (slice frames none (some stop)) = .ok ⟨true, some (start, stop)⟩ ∧
      ∀ after : Sample, ∃ first last : Int, evaluate p (frames ++ after) = .ok ⟨true, some (first, last)⟩ ∧
        0 ≤ first ∧ first ≤ start) := by
  have hp := grounded_of_parseIn h
  have hc := Pattern.consumes_iff.mpr hterm
  obtain ⟨first, last, hspan, hlt, hfirst, -⟩ := spanAt_of_matched hp hc hmatched rfl
  simp only [Option.some.injEq, Prod.mk.injEq] at hspan
  obtain ⟨rfl, rfl⟩ := hspan
  have hstop := bounds_of_spanAt hp hc hlt hfirst
  refine ⟨⟨?_, fun before => ?_⟩, fun hpresent => ⟨?_, fun after => ?_⟩⟩
  · rw [slice_drop, ← Int.natCast_sub (Nat.le_of_lt hstop.1)]
    exact evaluate_drop hp hc hmatched
  · obtain ⟨place, place', hmoved, hplace⟩ := exists_evaluate_append_right hp hc before hmatched
    exact ⟨place, place', hmoved, by omega⟩
  · rw [slice_take]
    exact evaluate_take (isTerm_of_parseIn h) hpresent hp hc hmatched
  · obtain ⟨place, place', hmoved, hplace⟩ :=
      exists_evaluate_append_left (isTerm_of_parseIn h) hpresent hp hc after hmatched
    exact ⟨place, place', hmoved, by omega⟩

/-- A query with an absence, the match of which is the second place of its atom, and a query with a skip,
between frames that are no part of its match. -/
theorem match_found_in_parts_absence_and_skip :
    let compile : String → Except Regex.CompileError (Frame → Bool) := fun text => .ok (· == text)
    (∃ p, parseWith compile "\x7ba\x7d,!\x7bb\x7d" = .ok p ∧
      evaluate p ["a", "b", "a", "c"] = .ok ⟨true, some (2, 3)⟩ ∧
      evaluate p (slice ["a", "b", "a", "c"] (some 2) none) = .ok ⟨true, some (0, 1)⟩ ∧
      ∀ before : Sample, ∃ first last : Int,
        evaluate p (before ++ ["a", "b", "a", "c"]) = .ok ⟨true, some (first, last)⟩ ∧
          (first = 2 + before.length ∧ last = 3 + before.length ∨ 0 ≤ first ∧ first < before.length)) ∧
    ∃ q, parseWith compile "\x7ba\x7d..\x7bb\x7d" = .ok q ∧ (∀ t ∈ q.terms, t.isAbsent = false) ∧
      evaluate q ["x", "a", "c", "b", "b"] = .ok ⟨true, some (1, 4)⟩ ∧
      evaluate q (slice ["x", "a", "c", "b", "b"] none (some 4)) = .ok ⟨true, some (1, 4)⟩ ∧
      ∀ after : Sample, ∃ first last : Int,
        evaluate q (["x", "a", "c", "b", "b"] ++ after) = .ok ⟨true, some (first, last)⟩ ∧
          0 ≤ first ∧ first ≤ 1 := by
  intro compile
  let leaf (text : String) : Node := .leaf text (· == text)
  let p : Pattern := ⟨"\x7ba\x7d,!\x7bb\x7d", Node.chain (leaf "a") [.absent (leaf "b")]⟩
  let q : Pattern := ⟨"\x7ba\x7d..\x7bb\x7d", Node.chain (leaf "a") [.skip (leaf "b")]⟩
  have hp : parseWith compile "\x7ba\x7d,!\x7bb\x7d" = .ok p := by rfl
  have hq : parseWith compile "\x7ba\x7d..\x7bb\x7d" = .ok q := by rfl
  have hmatched : evaluate p ["a", "b", "a", "c"] = .ok ⟨true, some (2, 3)⟩ := by rfl
  have hmatched' : evaluate q ["x", "a", "c", "b", "b"] = .ok ⟨true, some (1, 4)⟩ := by rfl
  have hterm : ∃ t ∈ p.terms, t.isAbsent = false := ⟨leaf "a", List.mem_cons_self, rfl⟩
  have hterms : ∀ t ∈ q.terms, t.isAbsent = false :=
    List.forall_mem_cons.mpr ⟨rfl, List.forall_mem_cons.mpr ⟨rfl, by simp⟩⟩
  obtain ⟨⟨hdrop, hbefore⟩, -⟩ := match_found_in_parts _ () _ p hp hterm _ 2 3 hmatched
  obtain ⟨-, hbehind⟩ :=
    match_found_in_parts _ () _ q hq ⟨leaf "a", List.mem_cons_self, rfl⟩ _ 1 4 hmatched'
  obtain ⟨htake, hafter⟩ := hbehind hterms
  exact ⟨⟨p, hp, hmatched, hdrop, hbefore⟩, q, hq, hterms, hmatched', htake, hafter⟩

/-- An absence looks behind the match: one more frame may end it. -/
example : evaluate ⟨"ast", Node.chain (.leaf "a" (· == "a")) [.absent (.leaf "b" (· == "b"))]⟩ (["a"] ++ ["b"]) =
    .ok .unmatched := by rfl

end StackQuery.Query
