import StackQuery.Proofs.Aggregation.Contribution
import StackQuery.Proofs.Counts.Record
import StackQuery.Proofs.Query.Span

/-!
# What a pass counts

A matched sample feeds its frames up to the end of the match or from its start on, both in call order.
A pass over samples that can all be renamed is a census of what they feed: every function and every edge
is counted once for each slice that holds it, and no other is counted.
-/
namespace StackQuery

/-- The counts of slices that samples feed: each function and each edge once for every slice that holds it,
in order of first occurrence, and the slices themselves if they are kept. -/
structure Census (samples matched : Nat) (fed : List (List Frame)) (keepStacks : Bool) (counts : Counts) :
    Prop where
  total : counts.total = samples
  matched : counts.matched = matched
  functionKeys : counts.functions.keys = fed.flatten.eraseDups
  functionCount (f : Frame) : counts.functions.count f = fed.countP (f ∈ ·)
  edgeKeys : counts.edges.keys = (fed.flatMap Counts.pairs).eraseDups
  edgeCount (f g : Frame) : counts.edges.count (f, g) = fed.countP ([f, g] <:+: ·)
  stackKeys : counts.stacks.keys = if keepStacks then fed.eraseDups else []
  stackCount (stack : List Frame) : counts.stacks.count stack = if keepStacks then fed.count stack else 0

namespace Census

variable {samples matched : Nat} {fed : List (List Frame)} {keepStacks : Bool} {counts : Counts}

theorem function_le (h : Census samples matched fed keepStacks counts) (f : Frame) :
    counts.functions.count f ≤ fed.length := by
  rw [h.functionCount, Int.ofNat_le]
  exact List.countP_le_length

theorem edge_le (h : Census samples matched fed keepStacks counts) (f g : Frame) :
    counts.edges.count (f, g) ≤ counts.functions.count f ∧
      counts.edges.count (f, g) ≤ counts.functions.count g := by
  have hends {slice : List Frame} (hslice : [f, g] <:+: slice) : f ∈ slice ∧ g ∈ slice :=
    Counts.mem_of_mem_pairs (Counts.mem_pairs_iff.mpr hslice)
  simp only [h.edgeCount, h.functionCount, Int.ofNat_le]
  constructor
  · exact List.countP_mono_left fun slice _ hslice =>
      decide_eq_true (hends (of_decide_eq_true hslice)).1
  · exact List.countP_mono_left fun slice _ hslice =>
      decide_eq_true (hends (of_decide_eq_true hslice)).2

end Census

theorem census_recordAll (keepStacks : Bool) (xs : List Contribution) :
    Census xs.length (xs.countP (·.result.matched)) (xs.filterMap (·.fed)) keepStacks
      (Counts.zero.recordAll keepStacks xs) := by
  have hcount {κ : Type} [DecidableEq κ] (k : κ) : Tally.count (.empty : Tally κ) k = 0 := rfl
  have hkeys {κ : Type} [DecidableEq κ] : OrderedMap.keys (.empty : Tally κ) = [] := rfl
  rw [Counts.recordAll_eq]
  constructor
  · exact Int.zero_add _
  · exact Int.zero_add _
  · rw [Counts.keys_addEach, eraseDups_append_flatMap, List.flatMap_id', Counts.zero, hkeys, List.nil_append]
  · intro f
    rw [Counts.count_addEach, count_flatMap_eraseDups, Counts.zero, hcount, Int.zero_add]
  · rw [Counts.keys_addEach, eraseDups_append_flatMap, Counts.zero, hkeys, List.nil_append]
  · intro f g
    rw [Counts.count_addEach, count_flatMap_eraseDups, Counts.zero, hcount, Int.zero_add]
    simp only [Counts.mem_pairs_iff]
  · rw [Counts.keys_addEach, Counts.zero, hkeys, List.nil_append]
    cases keepStacks <;> rfl
  · intro stack
    rw [Counts.count_addEach, Counts.zero, hcount, Int.zero_add]
    cases keepStacks <;> simp

namespace Aggregator

variable (a : Aggregator)

/-- The frames of a sample in call order. -/
def callOrder (frames : List Frame) : List Frame := if a.innermostFirst then frames.reverse else frames

/-- The bounds of a range of a sample in call order. -/
def callRange (length start stop : Nat) : Nat × Nat :=
  if a.innermostFirst then (length - stop, length - start) else (start, stop)

/-- The frames that a sample feeds, in call order: all of them, or those of matched samples, or of these
the frames up to the end of the match or from its start on. -/
def slice? (frames : List Frame) (result : MatchResult) : Option (List Frame) :=
  match a.scope with
  | .all => some (a.callOrder frames)
  | .matched => if result.matched then some (a.callOrder frames) else none
  | .callers => result.span.map fun (start, stop) =>
    (a.callOrder frames).take (a.callRange frames.length start.toNat stop.toNat).2
  | .callees => result.span.map fun (start, stop) =>
    (a.callOrder frames).drop (a.callRange frames.length start.toNat stop.toNat).1

theorem slice?_unmatched (frames : List Frame) :
    a.slice? frames .unmatched = if a.scope = .all then some (a.callOrder frames) else none := by
  unfold slice?
  cases a.scope <;> rfl

theorem slice?_matched (frames : List Frame) (start stop : Nat) :
    a.slice? frames ⟨true, some ((start : Int), (stop : Int))⟩ = some (match a.scope with
      | .all | .matched => a.callOrder frames
      | .callers => (a.callOrder frames).take (a.callRange frames.length start stop).2
      | .callees => (a.callOrder frames).drop (a.callRange frames.length start stop).1) := by
  unfold slice?
  cases a.scope <;> rfl

/-- What is cut off in the order of the sample and then put into call order is cut off in call order. -/
theorem select_callOrder (frames : List Frame) (r : MatchResult)
    (h : r = .unmatched ∨ ∃ start stop : Nat, r = ⟨true, some ((start : Int), (stop : Int))⟩) :
    (a.select frames r).map a.callOrder = a.slice? frames r := by
  obtain rfl | ⟨start, stop, rfl⟩ := h
  · rw [slice?_unmatched, select]
    cases a.scope <;> rfl
  · rw [slice?_matched, select]
    cases a.scope <;> cases horder : a.innermostFirst <;>
      simp [horder, callOrder, callRange, slice_take, slice_drop, List.reverse_take, List.reverse_drop]

variable {a}

/-- A renamed sample adds its result and what it feeds, if the pattern is evaluated without a violation. -/
theorem contributionOf_of_renamed (hp : a.pattern.Grounded) {sample : Sample} {frames : List Frame}
    (h : a.renamer.renameAll sample = .ok frames) :
    ∃ r, Query.evaluate a.pattern frames = .ok r ∧ a.contributionOf sample = .ok ⟨r, a.slice? frames r⟩ := by
  have hcontribution {r : MatchResult} (hr : Query.evaluate a.pattern frames = .ok r)
      (hshape : r = .unmatched ∨ ∃ start stop : Nat, r = ⟨true, some ((start : Int), (stop : Int))⟩) :
      a.contributionOf sample = .ok ⟨r, a.slice? frames r⟩ := by
    rw [contributionOf, h, ← a.select_callOrder frames r hshape]
    simp only [contribution, hr]
    rfl
  obtain hr | ⟨start, stop, hr, -⟩ := Query.evaluate_of_grounded hp frames
  · exact ⟨_, hr, hcontribution hr (.inl rfl)⟩
  · exact ⟨_, hr, hcontribution hr (.inr ⟨start, stop, rfl⟩)⟩

theorem mapM_contributionOf_ok (hp : a.pattern.Grounded) {samples : List Sample} {renamed : List (List Frame)}
    (h : samples.mapM a.renamer.renameAll = .ok renamed) :
    ∃ results, renamed.mapM (Query.evaluate a.pattern) = .ok results ∧
      samples.mapM a.contributionOf =
        .ok ((renamed.zip results).map fun s => ⟨s.2, a.slice? s.1 s.2⟩) := by
  simp only [mapM_eq_ok_iff] at h ⊢
  induction h with
  | nil => exact ⟨[], .nil, .nil⟩
  | cons hsample _ ih =>
    obtain ⟨r, hr, hcontribution⟩ := contributionOf_of_renamed hp hsample
    obtain ⟨results, hresults, hcontributions⟩ := ih
    exact ⟨r :: results, .cons hr hresults, .cons hcontribution hcontributions⟩

theorem mapM_contributionOf_error (hp : a.pattern.Grounded) {samples : List Sample}
    {e : Regex.TemplateError} (h : samples.mapM a.renamer.renameAll = .error e) :
    samples.mapM a.contributionOf = .error (.rename e) := by
  obtain ⟨before, sample, after, rfl, hbefore, hsample⟩ := mapM_eq_error_iff.mp h
  refine mapM_eq_error_iff.mpr ⟨before, sample, after, rfl, fun s hs => ?_, by rw [contributionOf, hsample]⟩
  obtain ⟨renamed, hrenamed⟩ := hbefore s hs
  obtain ⟨r, -, hcontribution⟩ := contributionOf_of_renamed hp hrenamed
  exact ⟨_, hcontribution⟩

/-- With an accepted query a sample can be counted if it can be renamed. -/
theorem exists_contributionOf_iff (hp : a.pattern.Grounded) {sample : Sample} :
    (∃ x, a.contributionOf sample = .ok x) ↔ ∃ frames, a.renamer.renameAll sample = .ok frames := by
  constructor
  · rintro ⟨x, hx⟩
    rw [contributionOf] at hx
    cases hrenamed : a.renamer.renameAll sample with
    | ok frames => exact ⟨frames, rfl⟩
    | error e =>
      rw [hrenamed] at hx
      cases hx
  · rintro ⟨frames, hframes⟩
    obtain ⟨r, -, hx⟩ := contributionOf_of_renamed hp hframes
    exact ⟨_, hx⟩

theorem exists_count_iff (hp : a.pattern.Grounded) {samples : List Sample} :
    (∃ c, a.count samples = .ok c) ↔ ∀ s ∈ samples, ∃ frames, a.renamer.renameAll s = .ok frames := by
  have hcount : (∃ c, a.count samples = .ok c) ↔ ∃ xs, samples.mapM a.contributionOf = .ok xs := by
    rw [count_eq]
    cases samples.mapM a.contributionOf <;> simp [Except.map]
  simp only [hcount, exists_mapM_iff, exists_contributionOf_iff hp]

variable (a)

/-- Counting with an accepted query fails only where a sample cannot be renamed, with the error of the first
such sample. Otherwise the query is evaluated on every renamed sample, and the counts are a census of the
slices that the samples feed; no function is counted more often than there are slices, and no edge more
often than either of its ends. -/
theorem count_is_census {σ : Type} (compile : Query.Compiler σ) (store : σ) (query : String)
    (h : (Query.parseIn compile query store).1 = .ok a.pattern) (samples : List Sample) :
    (∀ e, samples.mapM a.renamer.renameAll = .error e → a.count samples = .error (.rename e)) ∧
    ∀ renamed, samples.mapM a.renamer.renameAll = .ok renamed →
      ∃ results counts, renamed.mapM (Query.evaluate a.pattern) = .ok results ∧ a.count samples = .ok counts ∧
        let fed := (renamed.zip results).filterMap fun s => a.slice? s.1 s.2
        Census samples.length (results.countP (·.matched)) fed a.keepStacks counts ∧
          (∀ f, counts.functions.count f ≤ fed.length) ∧
          ∀ f g, counts.edges.count (f, g) ≤ counts.functions.count f ∧
            counts.edges.count (f, g) ≤ counts.functions.count g := by
  have hp := Query.grounded_of_parseIn h
  constructor
  · intro e he
    rw [count_eq, mapM_contributionOf_error hp he]
    rfl
  · intro renamed hrenamed
    obtain ⟨results, hresults, hcontributions⟩ := mapM_contributionOf_ok hp hrenamed
    have hsamples : samples.length = renamed.length := (mapM_eq_ok_iff.mp hrenamed).length_eq
    have hlength : renamed.length = results.length := (mapM_eq_ok_iff.mp hresults).length_eq
    have hmatched : (renamed.zip results).countP (fun s => s.2.matched) = results.countP (·.matched) := by
      conv_rhs => rw [← List.map_snd_zip hlength.ge, List.countP_map]
      rfl
    have hcensus := census_recordAll a.keepStacks
      ((renamed.zip results).map fun s => (⟨s.2, a.slice? s.1 s.2⟩ : Contribution))
    rw [List.length_map, List.length_zip, ← hlength, Nat.min_self, ← hsamples, List.countP_map,
      List.filterMap_map] at hcensus
    change Census samples.length ((renamed.zip results).countP fun s => s.2.matched)
      ((renamed.zip results).filterMap fun s => a.slice? s.1 s.2) _ _ at hcensus
    rw [hmatched] at hcensus
    refine ⟨results, _, hresults, ?_, hcensus, hcensus.function_le, hcensus.edge_le⟩
    rw [count_eq, hcontributions]
    rfl

/-- Samples read innermost frame first, one of them recursive and one without a match, cut at the end of the
match. -/
theorem count_is_census_callers :
    let compile : String → Except Regex.CompileError (Frame → Bool) := fun text => .ok (· == text)
    let pattern : Query.Pattern := ⟨"\x7bb\x7d", .leaf "b" (· == "b")⟩
    let a : Aggregator := ⟨pattern, .identity, .callers, true, true⟩
    Query.parseWith compile "\x7bb\x7d" = .ok pattern ∧
      ∃ counts, a.count [["c", "b", "a", "b", "a"], ["x"], ["b", "a"]] = .ok counts ∧
        Census 3 2 [["a", "b", "a", "b"], ["a", "b"]] true counts := by
  intro compile pattern a
  have hparse : Query.parseWith compile "\x7bb\x7d" = .ok pattern := by rfl
  obtain ⟨results, counts, hresults, hcounts, hcensus, -, -⟩ :=
    (a.count_is_census _ () _ hparse [["c", "b", "a", "b", "a"], ["x"], ["b", "a"]]).2 _ (by rfl)
  have hevaluated : [["c", "b", "a", "b", "a"], ["x"], ["b", "a"]].mapM (Query.evaluate pattern) =
      .ok [⟨true, some (1, 2)⟩, .unmatched, ⟨true, some (0, 1)⟩] := by rfl
  cases hevaluated.symm.trans hresults
  exact ⟨hparse, counts, hcounts, hcensus⟩

end Aggregator

end StackQuery
