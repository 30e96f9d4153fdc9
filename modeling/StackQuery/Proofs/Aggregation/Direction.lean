import StackQuery.Proofs.Aggregation.Census
import StackQuery.Proofs.Query.Symmetry

/-!
# Counting in either direction

A query that reads the same in both directions, in reverse, matches the samples in reverse. What a sample
read innermost frame first feeds is put back into call order, so that both passes record the same
contributions, and their counts are equal, with every key in its place.
-/
namespace StackQuery

/-- Contributions that are recorded alike: the spans may differ. -/
def Contribution.Alike (x y : Contribution) : Prop := x.result.matched = y.result.matched ∧ x.fed = y.fed

namespace Counts

theorem record_congr (counts : Counts) (keepStacks : Bool) {x y : Contribution} (h : x.Alike y) :
    counts.record keepStacks x = counts.record keepStacks y := by
  rw [record_eq, record_eq, h.1, h.2]

theorem recordAll_congr (counts : Counts) (keepStacks : Bool) {xs ys : List Contribution}
    (h : List.Forall₂ Contribution.Alike xs ys) :
    counts.recordAll keepStacks xs = counts.recordAll keepStacks ys := by
  induction h generalizing counts with
  | nil => rfl
  | cons hfirst _ ih => rw [recordAll_cons, recordAll_cons, record_congr counts keepStacks hfirst, ih]

end Counts

theorem Renamer.renameAll_reverse {r : Renamer} {frames renamed : List Frame}
    (h : r.renameAll frames = .ok renamed) : r.renameAll frames.reverse = .ok renamed.reverse :=
  mapM_eq_ok_iff.mpr (List.rel_reverse (mapM_eq_ok_iff.mp h))

namespace Aggregator

/-- Two ways to count that mirror each other: one has the atoms of the query in reverse and the other
direction of frames. -/
structure Mirrors (spread : Bool) (atoms : List Query.Node) (a b : Aggregator) : Prop where
  isAtom : ∀ n ∈ atoms, n.isAtom = true
  terms : a.pattern.terms = Query.joined spread atoms
  reversed : b.pattern.terms = Query.joined spread atoms.reverse
  renamer : b.renamer = a.renamer
  scope : b.scope = a.scope
  whole : a.scope = .all ∨ a.scope = .matched
  keepStacks : b.keepStacks = a.keepStacks
  direction : b.innermostFirst = !a.innermostFirst

namespace Mirrors

variable {spread : Bool} {atoms : List Query.Node} {a b : Aggregator}

theorem symm (h : Mirrors spread atoms a b) : Mirrors spread atoms.reverse b a where
  isAtom n hn := h.isAtom n (List.mem_reverse.mp hn)
  terms := h.reversed
  reversed := by rw [List.reverse_reverse, h.terms]
  renamer := h.renamer.symm
  scope := h.scope.symm
  whole := h.scope ▸ h.whole
  keepStacks := h.keepStacks.symm
  direction := by rw [h.direction, Bool.not_not]

theorem grounded (h : Mirrors spread atoms a b) : a.pattern.Grounded := fun t ht =>
  (Query.isTerm_of_joined _ h.isAtom t (h.terms ▸ ht)).takesFrame

theorem callOrder_reverse (h : Mirrors spread atoms a b) (frames : List Frame) :
    b.callOrder frames.reverse = a.callOrder frames := by
  rw [callOrder, callOrder, h.direction]
  cases a.innermostFirst <;> simp

/-- A sample in reverse feeds what the sample feeds, if both match or neither does. -/
theorem slice?_reverse (h : Mirrors spread atoms a b) (frames : List Frame) {r s : MatchResult}
    (hmatched : s.matched = r.matched) : b.slice? frames.reverse s = a.slice? frames r := by
  have horder := h.callOrder_reverse frames
  obtain hall | hscope := h.whole
  · simp only [slice?, h.scope, hall, horder]
  · simp only [slice?, h.scope, hscope, hmatched, horder]

theorem contributionOf_reverse (h : Mirrors spread atoms a b) {sample : Sample} {x : Contribution}
    (hx : a.contributionOf sample = .ok x) :
    ∃ y, b.contributionOf sample.reverse = .ok y ∧ x.Alike y := by
  obtain ⟨frames, hframes⟩ := (exists_contributionOf_iff h.grounded).mp ⟨x, hx⟩
  have hback : b.renamer.renameAll sample.reverse = .ok frames.reverse :=
    h.renamer ▸ Renamer.renameAll_reverse hframes
  obtain ⟨r, hr, hx'⟩ := contributionOf_of_renamed h.grounded hframes
  obtain ⟨s, hs, hy⟩ := contributionOf_of_renamed h.symm.grounded hback
  obtain ⟨r', s', hr', hs', hmatched⟩ := Query.evaluate_joined_reverse h.isAtom h.terms h.reversed frames
  cases hr'.symm.trans hr
  cases hs'.symm.trans hs
  cases hx'.symm.trans hx
  exact ⟨_, hy, hmatched.symm, (h.slice?_reverse frames hmatched).symm⟩

theorem count_reverse (h : Mirrors spread atoms a b) {samples : List Sample} {counts : Counts}
    (hcounts : a.count samples = .ok counts) : b.count (samples.map List.reverse) = .ok counts := by
  rw [count_eq] at hcounts ⊢
  cases hxs : samples.mapM a.contributionOf with
  | error e =>
    rw [hxs] at hcounts
    cases hcounts
  | ok xs =>
    rw [hxs] at hcounts
    cases hcounts
    obtain ⟨ys, hys, hsame⟩ : ∃ ys, (samples.map List.reverse).mapM b.contributionOf = .ok ys ∧
        List.Forall₂ Contribution.Alike xs ys := by
      simp only [mapM_eq_ok_iff] at hxs ⊢
      induction hxs with
      | nil => exact ⟨[], .nil, .nil⟩
      | cons hx _ ih =>
        obtain ⟨y, hy, hxy⟩ := h.contributionOf_reverse hx
        obtain ⟨ys, hys, hsame⟩ := ih
        exact ⟨y :: ys, .cons hy hys, .cons hxy hsame⟩
    rw [hys, h.keepStacks]
    exact congrArg Except.ok (Counts.recordAll_congr .zero a.keepStacks hsame).symm

end Mirrors

/-- A query of atoms alone, joined all by commas or all by dots, may be read in either direction. If it is
accepted, so is every query of the same atoms in reverse; and then counting the samples in reverse,
innermost frame first, gives exactly the counts of the samples themselves, with every key in its place, for
all rules and in the scopes that take samples as a whole. -/
theorem counts_in_either_direction
    (compile : String → Except Regex.CompileError (Frame → Bool)) (spread : Bool)
    (atoms : List Query.Grammar.Atom) (query reversed : String) (hquery : Query.Grammar.Joins spread atoms query)
    (hreversed : Query.Grammar.Joins spread atoms.reverse reversed) (p : Query.Pattern)
    (hp : Query.parseWith compile query = .ok p) :
    ∃ q, Query.parseWith compile reversed = .ok q ∧
      ∀ (renamer : Renamer) (scope : Scope) (keepStacks : Bool) (samples : List Sample) (counts : Counts),
        scope = .all ∨ scope = .matched →
        ((⟨q, renamer, scope, keepStacks, true⟩ : Aggregator).count (samples.map List.reverse) = .ok counts ↔
          (⟨p, renamer, scope, keepStacks, false⟩ : Aggregator).count samples = .ok counts) := by
  obtain ⟨q, nodes, hq, hatoms, hterms, hreverse⟩ := hquery.exists_reverse hreversed hp
  refine ⟨q, hq, fun renamer scope keepStacks samples counts hscope => ?_⟩
  have hmirrors : Mirrors spread nodes ⟨p, renamer, scope, keepStacks, false⟩
      ⟨q, renamer, scope, keepStacks, true⟩ :=
    ⟨hatoms, hterms, hreverse, rfl, rfl, hscope, rfl, rfl⟩
  constructor
  · intro h
    have hback := hmirrors.symm.count_reverse h
    rwa [List.map_map, List.reverse_involutive.comp_self, List.map_id] at hback
  · exact hmirrors.count_reverse

theorem joins_over_any {x y : Query.Grammar.Atom} (hx : x.isAny = false) (hy : y.isAny = false) {query : String}
    (hquery : x.chars ++ (".. . ..".toList ++ y.chars) = query.toList) :
    Query.Grammar.Joins true [x, .any, y] query := by
  let empty : Query.Grammar.Blanks := ⟨[], by simp⟩
  let blank : Query.Grammar.Blanks := ⟨[' '], List.forall_mem_singleton.mpr (by decide)⟩
  refine ⟨⟨empty, ⟨.none, .none, x⟩, empty, [⟨.dots blank .any, blank⟩, ⟨.dots empty y, empty⟩], ?_, ?_⟩, ?_, rfl⟩
  · intro hopen
    simp [Query.Grammar.Term.isOpen, hx] at hopen
  · refine ⟨fun _ => by simp [blank], fun hopen => ?_, trivial⟩
    simp [Query.Grammar.Joint.isOpen, hy] at hopen
  · rw [← hquery]
    simp [Query.Grammar.Derivation.chars, Query.Grammar.Term.chars, Query.Grammar.positiveChars,
      Query.Grammar.Joint.chars, Query.Grammar.Atom.chars, empty, blank]

/-- A query with a frame between two others, in both directions; one of the samples does not match. -/
theorem counts_in_either_direction_between :
    let compile : String → Except Regex.CompileError (Frame → Bool) := fun text => .ok (· == text)
    ∃ p q counts, Query.parseWith compile "\x7ba\x7d.. . ..\x7bb\x7d" = .ok p ∧
      Query.parseWith compile "\x7bb\x7d.. . ..\x7ba\x7d" = .ok q ∧
      (⟨p, .identity, .matched, true, false⟩ : Aggregator).count [["b", "a"], ["a", "x", "b", "b"]] = .ok counts ∧
      (⟨q, .identity, .matched, true, true⟩ : Aggregator).count [["a", "b"], ["b", "b", "x", "a"]] = .ok counts ∧
      counts.matched = 1 ∧ counts.functions.keys = ["a", "x", "b"] := by
  intro compile
  let leaf (text : String) : Query.Node := .leaf text (· == text)
  let p : Query.Pattern :=
    ⟨"\x7ba\x7d.. . ..\x7bb\x7d", Query.Node.chain (leaf "a") [.skip .any, .skip (leaf "b")]⟩
  have hp : Query.parseWith compile "\x7ba\x7d.. . ..\x7bb\x7d" = .ok p := by rfl
  let a : Query.Grammar.Atom := .leaf ⟨['a'], .plain (by decide) (by decide) (by decide) .done⟩
  let b : Query.Grammar.Atom := .leaf ⟨['b'], .plain (by decide) (by decide) (by decide) .done⟩
  obtain ⟨q, hq, hcounts⟩ := counts_in_either_direction compile true [a, .any, b]
    "\x7ba\x7d.. . ..\x7bb\x7d" "\x7bb\x7d.. . ..\x7ba\x7d" (joins_over_any rfl rfl (by rfl))
    (joins_over_any rfl rfl (by rfl)) p hp
  obtain ⟨counts, hforward, hone, hkeys⟩ : ∃ counts, (⟨p, .identity, .matched, true, false⟩ : Aggregator).count
      [["b", "a"], ["a", "x", "b", "b"]] = .ok counts ∧ counts.matched = 1 ∧
        counts.functions.keys = ["a", "x", "b"] := ⟨_, by rfl, by rfl, by rfl⟩
  exact ⟨p, q, counts, hp, hq, hforward,
    (hcounts .identity .matched true _ counts (.inr rfl)).mpr hforward, hone, hkeys⟩

end Aggregator

end StackQuery
