import StackQuery.Proofs.Aggregation.Census

/-!
# Callers and callees of a match

A match cuts a sample, taken in call order, in three: the frames before it, those that it takes, and those
after it. The callers are the first two parts and the callees the last two, so no frame is lost between them.
No pair of frames falls between them either, for the match takes a frame or stands at one end of the sample.
Counted over a pass, the two scopes together hold what the matched samples hold.
-/
namespace StackQuery

/-- A pair of neighbours stands before a place, up to it, or from it on. -/
theorem pair_infix_of_append_cons {α : Type} {x y z : α} {before rest : List α}
    (h : [x, y] <:+: before ++ z :: rest) : [x, y] <:+: before ++ [z] ∨ [x, y] <:+: z :: rest := by
  induction before with
  | nil => exact .inr h
  | cons first before ih =>
    rw [List.cons_append, List.infix_cons_iff] at h
    rcases h with hhere | hlater
    · left
      obtain ⟨rfl, hnext⟩ := List.cons_prefix_cons.mp hhere
      refine (List.cons_prefix_cons.mpr ⟨rfl, ?_⟩ : [x, y] <+: x :: (before ++ [z])).isInfix
      cases before with
      | nil => exact List.cons_prefix_cons.mpr ⟨(List.cons_prefix_cons.mp hnext).1, List.nil_prefix⟩
      | cons second before =>
        exact List.cons_prefix_cons.mpr ⟨(List.cons_prefix_cons.mp hnext).1, List.nil_prefix⟩
    · exact (ih hlater).imp_left List.infix_cons

/-- A pair in three parts stands in the first two or in the last two, unless the middle is empty and there are
elements on both sides of it. -/
theorem pair_infix_of_append {α : Type} {x y : α} {before inside after : List α}
    (hadjacent : inside ≠ [] ∨ before = [] ∨ after = []) (h : [x, y] <:+: before ++ inside ++ after) :
    [x, y] <:+: before ++ inside ∨ [x, y] <:+: inside ++ after := by
  rcases hadjacent with hinside | rfl | rfl
  · cases inside with
    | nil => exact absurd rfl hinside
    | cons first inside =>
      rw [List.append_assoc, List.cons_append] at h
      refine (pair_infix_of_append_cons h).imp_left fun hfront => hfront.trans ?_
      exact ((List.prefix_append_right_inj before).mpr (List.cons_prefix_cons.mpr ⟨rfl, List.nil_prefix⟩)).isInfix
  · exact .inr h
  · exact .inl (by rwa [List.append_nil] at h)

/-- Elements that pass a test are no more than those that pass one of two others. -/
theorem countP_le_countP_add_countP {α : Type} {p q r : α → Bool} {xs : List α}
    (h : ∀ x ∈ xs, p x = true → q x = true ∨ r x = true) : xs.countP p ≤ xs.countP q + xs.countP r := by
  induction xs with
  | nil => exact Nat.le_refl 0
  | cons x rest ih =>
    obtain ⟨hx, hrest⟩ := List.forall_mem_cons.mp h
    have hcount := ih hrest
    have hone : (if p x then 1 else 0) ≤ (if q x then 1 else 0) + if r x then 1 else 0 := by
      by_cases hp : p x = true
      · rcases hx hp with hq | hr
        · simp [hp, hq]
        · simp [hp, hr]
      · simp [hp]
    rw [List.countP_cons, List.countP_cons, List.countP_cons]
    omega

namespace Aggregator

variable (a : Aggregator) {frames : List Frame} {r : MatchResult} {before inside after : List Frame}

/-- The way to count with another scope. -/
def inScope (scope : Scope) : Aggregator := { a with scope }

theorem select_inScope (scope : Scope) (frames : List Frame) (start stop : Int) :
    (a.inScope scope).select frames ⟨true, some (start, stop)⟩ = some (match scope with
      | .all | .matched => frames
      | .callers => if a.innermostFirst then slice frames (some start) none else slice frames none (some stop)
      | .callees => if a.innermostFirst then slice frames none (some stop) else slice frames (some start) none) := by
  cases scope <;> rfl

theorem select_inScope_unmatched (scope : Scope) (frames : List Frame) :
    (a.inScope scope).select frames .unmatched = if scope = .all then some frames else none := by
  cases scope <;> rfl

/-- What three parts of a sample feed in a scope. -/
def partsIn (before inside after : List Frame) : Scope → List Frame
  | .all | .matched => before ++ inside ++ after
  | .callers => before ++ inside
  | .callees => inside ++ after

/-- A match cuts a sample in call order in three parts. -/
structure Cuts (frames : List Frame) (r : MatchResult) (before inside after : List Frame) : Prop where
  whole : a.callOrder frames = before ++ inside ++ after
  matched : r.inside frames = .ok (a.callOrder inside)
  fed (scope : Scope) :
    ((a.inScope scope).select frames r).map a.callOrder = some (partsIn before inside after scope)
  /-- A match without frames stands at one end of the sample. -/
  adjacent : inside ≠ [] ∨ before = [] ∨ after = []

/-- A range of a sample that matched cuts it, if the range has frames or stands at the start of the sample. -/
theorem exists_cuts_of_parts {front middle back : List Frame} (hparts : frames = front ++ middle ++ back)
    (hadjacent : middle ≠ [] ∨ front = []) :
    ∃ before inside after, a.Cuts frames
      ⟨true, some ((front.length : Int), ((front ++ middle).length : Int))⟩ before inside after := by
  have huntilEnd : slice frames none (some ((front ++ middle).length : Int)) = front ++ middle := by
    rw [slice_take, hparts, List.take_left]
  have hfromStart : slice frames (some (front.length : Int)) none = middle ++ back := by
    rw [slice_drop, hparts, List.append_assoc, List.drop_left]
  have hinside : slice frames (some (front.length : Int)) (some ((front ++ middle).length : Int)) = middle := by
    rw [slice_range, hparts, List.take_left, List.drop_left]
  have hmatched : MatchResult.inside ⟨true, some ((front.length : Int), ((front ++ middle).length : Int))⟩ frames =
      .ok middle := congrArg Except.ok hinside
  -- In call order the parts are those of the sample, or these in reverse.
  cases horder : a.innermostFirst with
  | false =>
    refine ⟨front, middle, back, by simpa [callOrder, horder] using hparts, ?_, fun scope => ?_, by tauto⟩
    · simpa [callOrder, horder] using hmatched
    · rw [select_inScope, huntilEnd, hfromStart, hparts]
      cases scope <;> simp [partsIn, callOrder, horder]
  | true =>
    refine ⟨back.reverse, middle.reverse, front.reverse, by simp [callOrder, horder, hparts], ?_,
      fun scope => ?_, ?_⟩
    · simpa [callOrder, horder] using hmatched
    · rw [select_inScope, huntilEnd, hfromStart, hparts]
      cases scope <;> simp [partsIn, callOrder, horder]
    · simp only [ne_eq, List.reverse_eq_nil_iff]
      tauto

theorem exists_cuts (hp : a.pattern.Grounded) (h : Query.evaluate a.pattern frames = .ok r)
    (hmatched : r.matched = true) : ∃ before inside after, a.Cuts frames r before inside after := by
  obtain hunmatched | ⟨start, stop, hevaluated, hrange⟩ := Query.evaluate_of_grounded hp frames
  · cases h.symm.trans hunmatched
    cases hmatched
  · cases h.symm.trans hevaluated
    have hbounds : start ≤ stop ∧ stop ≤ frames.length ∧ (start < stop ∨ start = 0) := by
      split at hrange <;> omega
    obtain ⟨hle, hend, hadjacent⟩ := hbounds
    have hfront : (frames.take start).length = start := List.length_take_of_le (hle.trans hend)
    have hmiddle : ((frames.take stop).drop start).length = stop - start := by
      rw [List.length_drop, List.length_take_of_le hend]
    have huntilEnd : frames.take start ++ (frames.take stop).drop start = frames.take stop := by
      rw [← Nat.min_eq_left hle, ← List.take_take, Nat.min_eq_left hle, List.take_append_drop]
    have hparts : frames = frames.take start ++ (frames.take stop).drop start ++ frames.drop stop := by
      rw [huntilEnd, List.take_append_drop]
    have hcuts := a.exists_cuts_of_parts hparts ?_
    · rwa [huntilEnd, hfront, List.length_take_of_le hend] at hcuts
    · rcases hadjacent with hlt | rfl
      · left
        rw [← List.length_pos_iff, hmiddle]
        omega
      · exact .inr rfl

/-- A test that neither part of a cut sample passes unless the whole does, and that one of them passes if the
whole does. -/
structure Divides (test : List Frame → Bool) : Prop where
  mono {part whole : List Frame} (isPart : part <:+: whole) (passes : test part = true) : test whole = true
  divides {before inside after : List Frame} (adjacent : inside ≠ [] ∨ before = [] ∨ after = [])
    (passes : test (before ++ inside ++ after) = true) :
    test (before ++ inside) = true ∨ test (inside ++ after) = true

theorem divides_mem (f : Frame) : Divides (f ∈ ·) := by
  constructor
  · intro part whole hpart hf
    exact decide_eq_true (hpart.subset (of_decide_eq_true hf))
  · intro before inside after _ hf
    have hmem : f ∈ before ++ inside ++ after := of_decide_eq_true hf
    simp only [List.mem_append, decide_eq_true_eq] at hmem ⊢
    tauto

theorem divides_pair (f g : Frame) : Divides ([f, g] <:+: ·) := by
  constructor
  · intro part whole hpart hpair
    exact decide_eq_true ((of_decide_eq_true hpair).trans hpart)
  · intro before inside after hadjacent hpair
    simp only [decide_eq_true_eq]
    exact pair_infix_of_append hadjacent (of_decide_eq_true hpair)

/-- What a sample feeds in a scope passes a test. -/
def feeds (test : List Frame → Bool) (scope : Scope) (s : List Frame × MatchResult) : Bool :=
  ((((a.inScope scope).select s.1 s.2).map a.callOrder).map test).getD false

variable {a} {test : List Frame → Bool} {s : List Frame × MatchResult}

/-- What passes in the callers or in the callees of a match passes in the sample, and the other way round. -/
theorem feeds_iff (hp : a.pattern.Grounded) (htest : Divides test) (h : Query.evaluate a.pattern s.1 = .ok s.2) :
    a.feeds test .matched s = true ↔ a.feeds test .callers s = true ∨ a.feeds test .callees s = true := by
  obtain ⟨frames, r⟩ := s
  dsimp only at h
  cases hmatched : r.matched with
  | false =>
    have hunmatched : r = .unmatched := by
      obtain hr | ⟨start, stop, hr, -⟩ := Query.evaluate_of_grounded hp frames
      · cases h.symm.trans hr
        rfl
      · cases h.symm.trans hr
        cases hmatched
    simp [feeds, hunmatched, select_inScope_unmatched]
  | true =>
    obtain ⟨before, inside, after, hcuts⟩ := a.exists_cuts hp h hmatched
    simp only [feeds, hcuts.fed, partsIn, Option.map_some, Option.getD_some]
    constructor
    · exact htest.divides hcuts.adjacent
    · rintro (hcallers | hcallees)
      · exact htest.mono (List.prefix_append _ after).isInfix hcallers
      · rw [List.append_assoc]
        exact htest.mono (List.suffix_append before _).isInfix hcallees

theorem feeds_all (h : a.feeds test .matched s = true) : a.feeds test .all s = true := by
  obtain ⟨frames, matched, span⟩ := s
  have hselect : (a.inScope .matched).select frames ⟨matched, span⟩ = none ∨
      (a.inScope .matched).select frames ⟨matched, span⟩ = some frames := by
    cases matched <;> cases span <;> simp [select, inScope]
  obtain hnone | hsome := hselect
  · rw [feeds, hnone] at h
    cases h
  · rw [feeds, hsome] at h
    exact h

/-- A pass over samples that can all be renamed: what it evaluates, and what it counts in each scope. -/
theorem exists_census (hp : a.pattern.Grounded) {samples : List Sample} {renamed : List (List Frame)}
    (h : samples.mapM a.renamer.renameAll = .ok renamed) :
    ∃ evaluated : List (List Frame × MatchResult), (∀ s ∈ evaluated, Query.evaluate a.pattern s.1 = .ok s.2) ∧
      ∀ scope, ∃ counts, (a.inScope scope).count samples = .ok counts ∧
        Census evaluated.length (evaluated.countP (·.2.matched))
          (evaluated.filterMap fun s => (a.inScope scope).slice? s.1 s.2) a.keepStacks counts := by
  obtain ⟨results, hresults, -⟩ := mapM_contributionOf_ok hp h
  refine ⟨renamed.zip results, ?_, fun scope => ?_⟩
  · intro s hs
    exact (List.forall₂_iff_zip.mp (mapM_eq_ok_iff.mp hresults)).2 hs
  · have hscope : (a.inScope scope).pattern.Grounded := hp
    obtain ⟨results', hresults', hcontributions⟩ := mapM_contributionOf_ok hscope h
    cases hresults.symm.trans hresults'
    have hcensus := census_recordAll a.keepStacks
      ((renamed.zip results).map fun s => (⟨s.2, (a.inScope scope).slice? s.1 s.2⟩ : Contribution))
    rw [List.length_map, List.countP_map, List.filterMap_map] at hcensus
    refine ⟨_, ?_, hcensus⟩
    rw [count_eq, hcontributions]
    rfl

end Aggregator

namespace Tally

variable {κ : Type} [DecidableEq κ]

/-- The counts of callers and of callees against those of the matched samples and of all samples. -/
structure Splits (all matched callers callees : Tally κ) : Prop where
  parts_le (k : κ) : max (callers.count k) (callees.count k) ≤ matched.count k
  le_parts (k : κ) : matched.count k ≤ callers.count k + callees.count k
  le_all (k : κ) : matched.count k ≤ all.count k

end Tally

namespace Aggregator

variable {a : Aggregator}

/-- Counts of the samples that feed something that passes a test are split by the scopes, where each key has a
test. -/
theorem splits_of_feeds (hp : a.pattern.Grounded) {evaluated : List (List Frame × MatchResult)}
    (h : ∀ s ∈ evaluated, Query.evaluate a.pattern s.1 = .ok s.2) {κ : Type} [DecidableEq κ]
    {test : κ → List Frame → Bool} (htest : ∀ k, Divides (test k)) {counts : Scope → Tally κ}
    (hcounts : ∀ scope k, (counts scope).count k = evaluated.countP (a.feeds (test k) scope)) :
    Tally.Splits (counts .all) (counts .matched) (counts .callers) (counts .callees) := by
  constructor
  · intro k
    simp only [hcounts, Int.max_le, Int.ofNat_le]
    constructor
    · exact List.countP_mono_left fun s hs hfeeds => (feeds_iff hp (htest k) (h s hs)).mpr (.inl hfeeds)
    · exact List.countP_mono_left fun s hs hfeeds => (feeds_iff hp (htest k) (h s hs)).mpr (.inr hfeeds)
  · intro k
    simp only [hcounts, ← Int.natCast_add, Int.ofNat_le]
    exact countP_le_countP_add_countP fun s hs => (feeds_iff hp (htest k) (h s hs)).mp
  · intro k
    simp only [hcounts, Int.ofNat_le]
    exact List.countP_mono_left fun s _ => feeds_all

theorem splits_of_census (hp : a.pattern.Grounded) {evaluated : List (List Frame × MatchResult)}
    (h : ∀ s ∈ evaluated, Query.evaluate a.pattern s.1 = .ok s.2) {samples matched : Nat} {keepStacks : Bool}
    {passes : Scope → Counts}
    (hcensus : ∀ scope, Census samples matched (evaluated.filterMap fun s => (a.inScope scope).slice? s.1 s.2)
      keepStacks (passes scope)) :
    Tally.Splits (passes .all).functions (passes .matched).functions (passes .callers).functions
        (passes .callees).functions ∧
      Tally.Splits (passes .all).edges (passes .matched).edges (passes .callers).edges (passes .callees).edges := by
  have hfed (scope : Scope) (test : List Frame → Bool) :
      (evaluated.filterMap fun s => (a.inScope scope).slice? s.1 s.2).countP test =
        evaluated.countP (a.feeds test scope) := by
    rw [List.countP_filterMap]
    refine List.countP_congr fun s hs => ?_
    have hshape : s.2 = .unmatched ∨ ∃ start stop : Nat, s.2 = ⟨true, some ((start : Int), (stop : Int))⟩ := by
      obtain hr | ⟨start, stop, hr, -⟩ := Query.evaluate_of_grounded hp s.1
      · exact .inl (Except.ok.inj ((h s hs).symm.trans hr))
      · exact .inr ⟨start, stop, Except.ok.inj ((h s hs).symm.trans hr)⟩
    rw [← (a.inScope scope).select_callOrder s.1 s.2 hshape]
    rfl
  constructor
  · have hcounts (scope : Scope) (f : Frame) :
        (passes scope).functions.count f = evaluated.countP (a.feeds (f ∈ ·) scope) := by
      rw [(hcensus scope).functionCount, hfed]
    exact splits_of_feeds hp h divides_mem hcounts
  · have hcounts (scope : Scope) (e : Edge) :
        (passes scope).edges.count e = evaluated.countP (a.feeds ([e.1, e.2] <:+: ·) scope) := by
      rw [← hfed, ← (hcensus scope).edgeCount]
    exact splits_of_feeds hp h (fun e : Edge => divides_pair e.1 e.2) hcounts

/-- The callers and the callees of a match lose no frame and no edge. A matched sample in call order has three
parts, the middle one of the matched frames; it feeds the first two as callers and the last two as callees.
Passes in the four scopes fail together, where a sample cannot be renamed, or have the same samples and matches;
and then a function or an edge is counted in callers or callees no more often than in matched samples, there no
more often than in both together, and in matched samples no more often than in all. -/
theorem scopes_split_matches (a : Aggregator) {σ : Type} (compile : Query.Compiler σ) (store : σ)
    (query : String) (h : (Query.parseIn compile query store).1 = .ok a.pattern) (samples : List Sample) :
    (∀ frames r, Query.evaluate a.pattern frames = .ok r → r.matched = true →
      (a.inScope .matched).contribution frames = .ok ⟨r, some (a.callOrder frames)⟩ ∧
      ∃ before inside after, a.callOrder frames = before ++ inside ++ after ∧
        r.inside frames = .ok (a.callOrder inside) ∧
        (a.inScope .callers).contribution frames = .ok ⟨r, some (before ++ inside)⟩ ∧
        (a.inScope .callees).contribution frames = .ok ⟨r, some (inside ++ after)⟩) ∧
    ((∃ e, samples.mapM a.renamer.renameAll = .error e ∧
        ∀ scope, (a.inScope scope).count samples = .error (.rename e)) ∨
      ∃ passes : Scope → Counts, (∀ scope, (a.inScope scope).count samples = .ok (passes scope)) ∧
        (∀ scope, (passes scope).total = (passes .all).total ∧ (passes scope).matched = (passes .all).matched) ∧
        Tally.Splits (passes .all).functions (passes .matched).functions (passes .callers).functions
          (passes .callees).functions ∧
        Tally.Splits (passes .all).edges (passes .matched).edges (passes .callers).edges
          (passes .callees).edges) := by
  have hp := Query.grounded_of_parseIn h
  constructor
  · intro frames r hr hmatched
    obtain ⟨before, inside, after, hcuts⟩ := a.exists_cuts hp hr hmatched
    have hcontribution (scope : Scope) :
        (a.inScope scope).contribution frames = .ok ⟨r, some (partsIn before inside after scope)⟩ := by
      rw [← hcuts.fed scope]
      exact congrArg (Except.map _) hr
    exact ⟨hcuts.whole ▸ hcontribution .matched, before, inside, after, hcuts.whole, hcuts.matched,
      hcontribution .callers, hcontribution .callees⟩
  · cases hrenamed : samples.mapM a.renamer.renameAll with
    | error e =>
      refine .inl ⟨e, rfl, fun scope => ?_⟩
      have hscope : (a.inScope scope).pattern.Grounded := hp
      rw [count_eq, mapM_contributionOf_error hscope hrenamed]
      rfl
    | ok renamed =>
      obtain ⟨evaluated, hevaluated, hpasses⟩ := exists_census hp hrenamed
      choose passes hcounts hcensus using hpasses
      refine .inr ⟨passes, hcounts, fun scope => ⟨?_, ?_⟩, splits_of_census hp hevaluated hcensus⟩
      · rw [(hcensus scope).total, (hcensus .all).total]
      · rw [(hcensus scope).matched, (hcensus .all).matched]

/-- Samples read innermost frame first: one that matches in the middle, a recursive one that matches at its
innermost end, and one that does not match. -/
theorem scopes_split_matches_recursive :
    let compile : String → Except Regex.CompileError (Frame → Bool) := fun text => .ok (· == text)
    let samples : List Sample := [["d", "c", "b", "a"], ["c", "b", "c", "b"], ["b", "c"]]
    ∃ p, Query.parseWith compile "\x7bc\x7d,\x7bb\x7d" = .ok p ∧
      let a : Aggregator := ⟨p, .identity, .all, false, true⟩
      Query.evaluate p ["d", "c", "b", "a"] = .ok ⟨true, some (1, 3)⟩ ∧
      (∃ before inside after, ["a", "b", "c", "d"] = before ++ inside ++ after ∧
        MatchResult.inside ⟨true, some (1, 3)⟩ ["d", "c", "b", "a"] = .ok inside.reverse ∧
        (a.inScope .callers).contribution ["d", "c", "b", "a"] =
          .ok ⟨⟨true, some (1, 3)⟩, some (before ++ inside)⟩ ∧
        (a.inScope .callees).contribution ["d", "c", "b", "a"] =
          .ok ⟨⟨true, some (1, 3)⟩, some (inside ++ after)⟩) ∧
      ∃ passes : Scope → Counts, (∀ scope, (a.inScope scope).count samples = .ok (passes scope)) ∧
        (∀ scope, (passes scope).total = (passes .all).total ∧ (passes scope).matched = (passes .all).matched) ∧
        Tally.Splits (passes .all).functions (passes .matched).functions (passes .callers).functions
          (passes .callees).functions ∧
        Tally.Splits (passes .all).edges (passes .matched).edges (passes .callers).edges
          (passes .callees).edges ∧
        ∀ scope, (passes scope).edges.count ("c", "b") =
          match scope with
          | .all => 2
          | .matched | .callers => 1
          | .callees => 0 := by
  intro compile samples
  let leaf (text : String) : Query.Node := .leaf text (· == text)
  let p : Query.Pattern := ⟨"\x7bc\x7d,\x7bb\x7d", Query.Node.chain (leaf "c") [leaf "b"]⟩
  let a : Aggregator := ⟨p, .identity, .all, false, true⟩
  have hparse : Query.parseWith compile "\x7bc\x7d,\x7bb\x7d" = .ok p := by rfl
  have hmatched : Query.evaluate p ["d", "c", "b", "a"] = .ok ⟨true, some (1, 3)⟩ := by rfl
  obtain ⟨hparts, ⟨e, hfailed, -⟩ | ⟨passes, hcounts, htotals, hfunctions, hedges⟩⟩ :=
    scopes_split_matches a _ () _ hparse samples
  · have hrenamed : samples.mapM Renamer.identity.renameAll = .ok samples := by rfl
    cases hrenamed.symm.trans hfailed
  obtain ⟨-, hcut⟩ := hparts _ _ hmatched rfl
  refine ⟨p, hparse, hmatched, hcut, passes, hcounts, htotals, hfunctions, hedges, fun scope => ?_⟩
  refine Except.ok.inj (ε := SampleError) ?_
  refine (congrArg (Except.map fun c : Counts => c.edges.count ("c", "b")) (hcounts scope)).symm.trans ?_
  cases scope <;> rfl

end Aggregator

end StackQuery
