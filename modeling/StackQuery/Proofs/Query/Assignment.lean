import StackQuery.Proofs.Query.Span

/-!
# Matches as choices of frames

A query asks for frames: one for each term that is no absence, where the query puts them. Which frames
answer it is stated here without saying how they are found. The matcher commits to the first frame that
a skip finds and never comes back. The frames it takes always answer the query. If the query is a block
of adjacent atoms with atoms after skips behind it, the matcher also finds an answer whenever there is
one: wherever an answer has a frame for a skipped atom, the matcher took one no later.
-/
namespace StackQuery.Query

def Node.admits : Node → Frame → Bool
  | .leaf _ accepts, frame => accepts frame
  | .any, _ => true
  | _, _ => false

/-- The frame at an index satisfies an atom. -/
def Holds (frames : Sample) (atom : Node) (i : Nat) : Prop :=
  ∃ frame, frames[i]? = some frame ∧ atom.admits frame = true

/-- Indices of frames that answer terms from a cursor on, one for each term that is no absence. -/
inductive Placed (frames : Sample) : (terms : List Node) → (cursor : Nat) → (indices : List Nat) → Prop where
  | nil {cursor : Nat} : Placed frames [] cursor []
  | here {atom : Node} {rest : List Node} {cursor : Nat} {indices : List Nat}
      (holds : Holds frames atom cursor) (more : Placed frames rest (cursor + 1) indices) :
      Placed frames (atom :: rest) cursor (cursor :: indices)
  /-- An atom after a skip takes a frame at the cursor or later. -/
  | later {atom : Node} {rest : List Node} {cursor i : Nat} {indices : List Nat} (le : cursor ≤ i)
      (holds : Holds frames atom i) (more : Placed frames rest (i + 1) indices) :
      Placed frames (.skip atom :: rest) cursor (i :: indices)
  | notHere {atom : Node} {rest : List Node} {cursor : Nat} {indices : List Nat}
      (isAtom : atom.isAtom = true) (fails : ¬ Holds frames atom cursor)
      (more : Placed frames rest cursor indices) : Placed frames (.absent atom :: rest) cursor indices
  /-- An absent atom after a skip fails at the cursor and everywhere later. -/
  | notLater {atom : Node} {rest : List Node} {cursor : Nat} {indices : List Nat}
      (isAtom : atom.isAtom = true) (fails : ∀ i, cursor ≤ i → ¬ Holds frames atom i)
      (more : Placed frames rest cursor indices) :
      Placed frames (.absent (.skip atom) :: rest) cursor indices

variable {frames : Sample} {atom : Node} {terms : List Node} {cursor i : Nat} {indices : List Nat}

theorem Holds.isAtom (h : Holds frames atom i) : atom.isAtom = true := by
  obtain ⟨frame, -, hadmits⟩ := h
  cases atom <;> first | rfl | cases hadmits

theorem Holds.lt_length (h : Holds frames atom i) : i < frames.length := by
  obtain ⟨frame, hframe, -⟩ := h
  exact (List.getElem?_eq_some_iff.mp hframe).1

namespace Placed

theorem le_of_mem (h : Placed frames terms cursor indices) : ∀ i ∈ indices, cursor ≤ i := by
  induction h with
  | nil => simp
  | here _ _ ih =>
    intro i hi
    rcases List.mem_cons.mp hi with rfl | hi
    · exact Nat.le_refl i
    · exact Nat.le_of_succ_le (ih i hi)
  | later le _ _ ih =>
    intro j hj
    rcases List.mem_cons.mp hj with rfl | hj
    · exact le
    · exact Nat.le_trans le (Nat.le_of_succ_le (ih j hj))
  | notHere _ _ _ ih | notLater _ _ _ ih => exact ih

theorem pairwise_lt (h : Placed frames terms cursor indices) : indices.Pairwise (· < ·) := by
  induction h with
  | nil => exact .nil
  | here _ more ih | later _ _ more ih => exact .cons more.le_of_mem ih
  | notHere _ _ _ ih | notLater _ _ _ ih => exact ih

theorem length_eq (h : Placed frames terms cursor indices) :
    indices.length = terms.countP (!·.isAbsent) := by
  induction h with
  | nil => rfl
  | here holds _ ih =>
    rw [List.length_cons, ih, List.countP_cons_of_pos (by simp [Node.not_isAbsent_of_isAtom holds.isAtom])]
  | later _ _ _ ih => rw [List.length_cons, ih, List.countP_cons_of_pos (by rfl)]
  | notHere _ _ _ ih | notLater _ _ _ ih => rw [ih, List.countP_cons_of_neg (by simp [Node.isAbsent])]

theorem cons_atom_iff {rest : List Node} (h : atom.isAtom = true) :
    Placed frames (atom :: rest) cursor indices ↔
      Holds frames atom cursor ∧ ∃ later, indices = cursor :: later ∧ Placed frames rest (cursor + 1) later := by
  constructor
  · intro hplaced
    cases hplaced with
    | here holds more => exact ⟨holds, _, rfl, more⟩
    | later | notHere | notLater => cases h
  · rintro ⟨holds, later, rfl, more⟩
    exact .here holds more

theorem cons_skip_iff {rest : List Node} :
    Placed frames (.skip atom :: rest) cursor indices ↔
      ∃ i later, cursor ≤ i ∧ Holds frames atom i ∧ indices = i :: later ∧
        Placed frames rest (i + 1) later := by
  constructor
  · intro hplaced
    cases hplaced with
    | here holds => cases holds.isAtom
    | later le holds more => exact ⟨_, _, le, holds, rfl, more⟩
  · rintro ⟨i, later, le, holds, rfl, more⟩
    exact .later le holds more

end Placed

/-- One past the last index, or a default if there is none. -/
def stopOf (indices : List Nat) (default : Nat) : Nat := (indices.getLast?.map (· + 1)).getD default

theorem stopOf_cons (i : Nat) (later : List Nat) (default : Nat) :
    stopOf (i :: later) default = stopOf later (i + 1) := by
  rw [stopOf, stopOf, List.getLast?_cons]
  cases later.getLast? <;> rfl

theorem stopOf_of_getLast? {last : Nat} (h : indices.getLast? = some last) (default : Nat) :
    stopOf indices default = last + 1 := by
  rw [stopOf, h]
  rfl

theorem matchAt_atom_eq_some_iff (h : atom.isAtom = true) {after : Nat} :
    matchAt frames atom i = some after ↔ Holds frames atom i ∧ after = i + 1 := by
  cases atom with
  | leaf text accepts =>
    rw [matchAt]
    cases hframe : frames[i]? with
    | none => simp [Holds, hframe]
    | some frame => simp [Holds, Node.admits, hframe, eq_comm (a := after)]
  | any =>
    have hany : Holds frames .any i ↔ i < frames.length := by
      simp [Holds, Node.admits, ← Option.isSome_iff_exists]
    rw [hany, matchAt, Option.ite_none_right_eq_some, Option.some.injEq, eq_comm (a := after)]
  | seq | skip | absent => cases h

theorem matchAt_atom_eq_none_iff (h : atom.isAtom = true) :
    matchAt frames atom i = none ↔ ¬ Holds frames atom i := by
  rw [Option.eq_none_iff_forall_ne_some]
  constructor
  · intro hnone holds
    exact hnone (i + 1) ((matchAt_atom_eq_some_iff h).mpr ⟨holds, rfl⟩)
  · intro hfails after hafter
    exact hfails ((matchAt_atom_eq_some_iff h).mp hafter).1

/-- A skip takes the first frame from the cursor on that satisfies its atom. -/
theorem matchAt_skip_eq_some_iff (h : atom.isAtom = true) {after : Nat} :
    matchAt frames (.skip atom) cursor = some after ↔
      ∃ i, cursor ≤ i ∧ Holds frames atom i ∧ after = i + 1 ∧
        ∀ earlier, cursor ≤ earlier → earlier < i → ¬ Holds frames atom earlier := by
  rw [matchAt, firstFrom_eq_some_iff]
  simp only [matchAt_atom_eq_some_iff h, matchAt_atom_eq_none_iff h]
  constructor
  · rintro ⟨i, hle, -, ⟨holds, hafter⟩, hearlier⟩
    exact ⟨i, hle, holds, hafter, hearlier⟩
  · rintro ⟨i, hle, holds, hafter, hearlier⟩
    have hlt := holds.lt_length
    exact ⟨i, hle, by omega, ⟨holds, hafter⟩, hearlier⟩

theorem matchAt_skip_eq_none_iff (h : atom.isAtom = true) :
    matchAt frames (.skip atom) cursor = none ↔ ∀ i, cursor ≤ i → ¬ Holds frames atom i := by
  rw [matchAt, firstFrom_eq_none_iff]
  simp only [matchAt_atom_eq_none_iff h]
  constructor
  · intro hfails i hle holds
    have hlt := holds.lt_length
    exact hfails i hle (by omega) holds
  · intro hfails i hle _
    exact hfails i hle

theorem advance_eq_some_iff {term : Node} {r r' : Reach} :
    advance frames term r = some r' ↔
      ∃ after, matchAt frames term r.cursor = some after ∧
        r' = if term.isAbsent then r else ⟨after, some (r.first.getD r.cursor), after⟩ := by
  rw [advance]
  cases matchAt frames term r.cursor with
  | none => simp
  | some after => cases term.isAbsent <;> simp [eq_comm]

theorem matchAt_absent_eq_some {inner : Node} {after : Nat} (h : matchAt frames (.absent inner) i = some after) :
    matchAt frames inner i = none := by
  rw [matchAt, Option.ite_none_right_eq_some, Option.isNone_iff_eq_none] at h
  exact h.1

/-- What one term takes answers it, if what the rest takes answers the rest: nothing for an absence, one
frame for any other term. -/
theorem placed_of_advance {term : Node} {rest : List Node} {r r' : Reach} (hterm : term.IsTerm)
    (h : advance frames term r = some r') (hrest : Placed frames rest r'.cursor indices) :
    (r' = r ∧ Placed frames (term :: rest) r.cursor indices) ∨
      ∃ i, r'.last = i + 1 ∧ Placed frames (term :: rest) r.cursor (i :: indices) := by
  obtain ⟨after, hmatch, rfl⟩ := advance_eq_some_iff.mp h
  cases hterm with
  | atom isAtom =>
    obtain ⟨holds, rfl⟩ := (matchAt_atom_eq_some_iff isAtom).mp hmatch
    rw [Node.not_isAbsent_of_isAtom isAtom] at hrest ⊢
    exact .inr ⟨r.cursor, rfl, .here holds hrest⟩
  | skip isAtom =>
    obtain ⟨i, hle, holds, rfl, -⟩ := (matchAt_skip_eq_some_iff isAtom).mp hmatch
    exact .inr ⟨i, rfl, .later hle holds hrest⟩
  | absent isAtom =>
    have hfails := (matchAt_atom_eq_none_iff isAtom).mp (matchAt_absent_eq_some hmatch)
    exact .inl ⟨rfl, .notHere isAtom hfails hrest⟩
  | absentSkip isAtom =>
    have hfails := (matchAt_skip_eq_none_iff isAtom).mp (matchAt_absent_eq_some hmatch)
    exact .inl ⟨rfl, .notLater isAtom hfails hrest⟩

/-- What a whole chain takes answers it, and ends one past the last frame taken. -/
theorem placed_of_advanceAll {r r' : Reach} (hterms : ∀ t ∈ terms, t.IsTerm)
    (h : advanceAll frames terms r = some r') :
    ∃ indices, Placed frames terms r.cursor indices ∧ r'.last = stopOf indices r.last := by
  induction terms generalizing r with
  | nil =>
    cases h
    exact ⟨[], .nil, rfl⟩
  | cons term rest ih =>
    rw [advanceAll] at h
    cases hone : advance frames term r with
    | none =>
      rw [hone] at h
      cases h
    | some r₁ =>
      rw [hone] at h
      obtain ⟨indices, hrest, hlast⟩ := ih (fun t ht => hterms t (List.mem_cons_of_mem _ ht)) h
      obtain ⟨rfl, hplaced⟩ | ⟨i, hi, hplaced⟩ := placed_of_advance (hterms term List.mem_cons_self) hone hrest
      · exact ⟨indices, hplaced, hlast⟩
      · exact ⟨i :: indices, hplaced, by rw [hlast, stopOf_cons, hi]⟩

theorem advance_of_holds {r : Reach} (h : Holds frames atom r.cursor) :
    advance frames atom r = some ⟨r.cursor + 1, some (r.first.getD r.cursor), r.cursor + 1⟩ := by
  refine advance_eq_some_iff.mpr ⟨r.cursor + 1, (matchAt_atom_eq_some_iff h.isAtom).mpr ⟨h, rfl⟩, ?_⟩
  rw [Node.not_isAbsent_of_isAtom h.isAtom]
  rfl

/-- Where some frame from the cursor on satisfies an atom, a skip takes one that is not later. -/
theorem exists_advance_skip {r : Reach} (hle : r.cursor ≤ i) (h : Holds frames atom i) :
    ∃ taken, r.cursor ≤ taken ∧ taken ≤ i ∧
      advance frames (.skip atom) r = some ⟨taken + 1, some (r.first.getD r.cursor), taken + 1⟩ := by
  cases hmatch : matchAt frames (.skip atom) r.cursor with
  | none => exact absurd h ((matchAt_skip_eq_none_iff h.isAtom).mp hmatch i hle)
  | some after =>
    obtain ⟨taken, htaken, -, rfl, hearlier⟩ := (matchAt_skip_eq_some_iff h.isAtom).mp hmatch
    have hnotLater : taken ≤ i := Nat.le_of_not_lt fun hlt => hearlier i hle hlt h
    exact ⟨taken, htaken, hnotLater, advance_eq_some_iff.mpr ⟨_, hmatch, rfl⟩⟩

/-- Atoms after skips: from a cursor that is not later than that of an answer, the matcher comes through
and ends no later. The induction is on the atoms; each frame taken may replace that of the answer. -/
theorem exists_advanceAll_skips {skipped : List Node} {stop : Nat} {r : Reach}
    (h : Placed frames (skipped.map .skip) cursor indices) (hcursor : r.cursor ≤ cursor)
    (hlast : r.last ≤ stop) :
    ∃ r', advanceAll frames (skipped.map .skip) r = some r' ∧ r'.last ≤ stopOf indices stop := by
  induction skipped generalizing cursor indices stop r with
  | nil =>
    cases h
    exact ⟨r, rfl, hlast⟩
  | cons atom rest ih =>
    obtain ⟨i, later, hle, holds, rfl, hrest⟩ := Placed.cons_skip_iff.mp h
    obtain ⟨taken, -, htaken, hadvance⟩ := exists_advance_skip (Nat.le_trans hcursor hle) holds
    have hnext : taken + 1 ≤ i + 1 := Nat.succ_le_succ htaken
    obtain ⟨r', hr', hstop⟩ := ih (r := ⟨taken + 1, some (r.first.getD r.cursor), taken + 1⟩) hrest hnext hnext
    refine ⟨r', ?_, ?_⟩
    · rw [List.map_cons, advanceAll, hadvance]
      exact hr'
    · rw [stopOf_cons]
      exact hstop

/-- Adjacent atoms and then atoms after skips: from the cursor of an answer. -/
theorem exists_advanceAll_block {block skipped : List Node} {r : Reach}
    (hblock : ∀ a ∈ block, a.isAtom = true)
    (h : Placed frames (block ++ skipped.map .skip) r.cursor indices) :
    ∃ r', advanceAll frames (block ++ skipped.map .skip) r = some r' ∧ r'.last ≤ stopOf indices r.last := by
  induction block generalizing indices r with
  | nil => exact exists_advanceAll_skips h (Nat.le_refl _) (Nat.le_refl _)
  | cons atom rest ih =>
    obtain ⟨holds, later, rfl, hrest⟩ := (Placed.cons_atom_iff (hblock atom List.mem_cons_self)).mp h
    obtain ⟨r', hr', hstop⟩ := ih (r := ⟨r.cursor + 1, some (r.first.getD r.cursor), r.cursor + 1⟩)
      (fun a ha => hblock a (List.mem_cons_of_mem _ ha)) hrest
    refine ⟨r', ?_, ?_⟩
    · rw [List.cons_append, advanceAll, advance_of_holds holds]
      exact hr'
    · rw [stopOf_cons]
      exact hstop

/-- A block with atoms after skips behind it: the matcher finds a span from the start of every answer. -/
theorem exists_spanAt_block {block skipped : List Node} {start : Nat} (hblock : ∀ a ∈ block, a.isAtom = true)
    (h : Placed frames (block ++ skipped.map .skip) start indices) :
    ∃ span, spanAt (block ++ skipped.map .skip) frames start = some span ∧ span.2 ≤ stopOf indices start := by
  obtain ⟨r, hr, hstop⟩ := exists_advanceAll_block (r := .start start) hblock h
  exact ⟨(r.first.getD start, r.last), by rw [spanAt, hr, Option.map_some], hstop⟩

/-- The same with a skip before the block: the matcher finds a span from the first frame of every answer. -/
theorem exists_spanAt_skip_block {block skipped : List Node} {start : Nat}
    (hblock : ∀ a ∈ block, a.isAtom = true)
    (h : Placed frames (.skip atom :: (block ++ skipped.map .skip)) start indices) :
    ∃ i span, i < frames.length ∧ spanAt (.skip atom :: (block ++ skipped.map .skip)) frames i = some span := by
  obtain ⟨i, later, -, holds, rfl, hrest⟩ := Placed.cons_skip_iff.mp h
  obtain ⟨taken, hle, hge, hadvance⟩ := exists_advance_skip (r := .start i) (Nat.le_refl i) holds
  obtain rfl : taken = i := Nat.le_antisymm hge hle
  obtain ⟨r, hr, -⟩ := exists_advanceAll_block (r := ⟨taken + 1, some taken, taken + 1⟩) hblock hrest
  refine ⟨taken, (r.first.getD taken, r.last), holds.lt_length, ?_⟩
  rw [spanAt, advanceAll, hadvance]
  exact congrArg (Option.map fun r : Reach => (r.first.getD taken, r.last)) hr

/-- The span of a match is found at the least start from which the terms match. -/
theorem spanAt_of_matched {p : Pattern} (hp : p.Grounded) (hc : p.consumes = true) {r : MatchResult}
    (h : evaluate p frames = .ok r) (hmatched : r.matched = true) :
    ∃ start stop : Nat, r.span = some ((start : Int), (stop : Int)) ∧ start < frames.length ∧
      spanAt p.terms frames start = some (start, stop) ∧
      ∀ earlier < start, spanAt p.terms frames earlier = none := by
  simp only [evaluate, hc, if_true] at h
  split at h
  · cases h
    cases hmatched
  · next span hspan =>
    obtain ⟨start, -, hlt, hstart, hearlier⟩ := firstSpan_eq_some_iff.mp hspan
    rw [Nat.zero_add] at hlt
    obtain rfl : span.1 = start := (spanAt_eq_some hp (Nat.le_of_lt hlt) hstart).1
    split at h
    · cases h
      exact ⟨span.1, span.2, rfl, hlt, hstart, fun earlier => hearlier earlier (Nat.zero_le earlier)⟩
    · cases h

theorem matched_of_spanAt {p : Pattern} (hp : p.Grounded) (hc : p.consumes = true) {span : Nat × Nat}
    (hi : i < frames.length) (h : spanAt p.terms frames i = some span) :
    ∃ start stop : Nat, evaluate p frames = .ok ⟨true, some ((start : Int), (stop : Int))⟩ := by
  obtain hunmatched | ⟨start, stop, hmatched, -⟩ := evaluate_of_grounded hp frames
  · simp only [evaluate, hc, if_true] at hunmatched
    split at hunmatched
    · next hnone =>
      have hspan := firstSpan_eq_none_iff.mp hnone i (Nat.zero_le i) (by omega)
      rw [h] at hspan
      cases hspan
    · split at hunmatched <;> cases hunmatched
  · exact ⟨start, stop, hmatched⟩

theorem placed_of_spanAt {start stop : Nat} (hterms : ∀ t ∈ terms, t.IsTerm)
    (h : spanAt terms frames start = some (start, stop)) :
    ∃ indices, Placed frames terms start indices ∧ stop = stopOf indices start := by
  obtain ⟨r, hr, hspan⟩ := Option.map_eq_some_iff.mp h
  obtain ⟨indices, hplaced, hlast⟩ := placed_of_advanceAll hterms hr
  exact ⟨indices, hplaced, (congrArg Prod.snd hspan).symm.trans hlast⟩

/-- The frames that the terms of an accepted query take answer it. The span of a match starts at the cursor
of the answer and ends one past its last frame. If the query is a block of adjacent atoms, the first
perhaps after a skip, and then atoms after skips, it matches whenever it has an answer; without the skip
before the block, no answer starts earlier than the match, and none that starts with it ends earlier. -/
theorem evaluate_takes_answer {σ : Type} (compile : Compiler σ) (store : σ) (query : String) (p : Pattern)
    (h : (parseIn compile query store).1 = .ok p) (frames : Sample) :
    (∀ r, evaluate p frames = .ok r → r.matched = true → (∃ t ∈ p.terms, t.isAbsent = false) →
      ∃ (start stop last : Nat) (indices : List Nat), r.span = some ((start : Int), (stop : Int)) ∧
        Placed frames p.terms start indices ∧ indices.Pairwise (· < ·) ∧
        indices.length = p.terms.countP (!·.isAbsent) ∧ indices.getLast? = some last ∧ stop = last + 1) ∧
    ∀ (floating : Bool) (atom : Node) (block skipped : List Node),
      (∀ a ∈ atom :: block ++ skipped, a.isAtom = true) →
      p.terms = (if floating then .skip atom else atom) :: block ++ skipped.map .skip →
      (∃ start indices, Placed frames p.terms start indices) →
      ∃ start stop : Nat, evaluate p frames = .ok ⟨true, some ((start : Int), (stop : Int))⟩ ∧
        (floating = false → ∀ other indices last, Placed frames p.terms other indices →
          indices.getLast? = some last → start ≤ other ∧ (other = start → stop ≤ last + 1)) := by
  have hgrounded := grounded_of_parseIn h
  constructor
  · intro r hr hmatched hterm
    have hc := Pattern.consumes_iff.mpr hterm
    obtain ⟨start, stop, hspan, -, hstart, -⟩ := spanAt_of_matched hgrounded hc hr hmatched
    obtain ⟨indices, hplaced, hstop⟩ := placed_of_spanAt (isTerm_of_parseIn h) hstart
    have hlength : 0 < indices.length := by
      rw [hplaced.length_eq, List.countP_pos_iff]
      simpa only [Bool.not_eq_true'] using hterm
    have hlast := List.getLast?_eq_some_getLast (List.ne_nil_of_length_pos hlength)
    exact ⟨start, stop, _, indices, hspan, hplaced, hplaced.pairwise_lt, hplaced.length_eq, hlast,
      hstop.trans (stopOf_of_getLast? hlast start)⟩
  · rintro floating atom block skipped hatoms hterms ⟨start, indices, hplaced⟩
    have hblock : ∀ a ∈ block, a.isAtom = true := fun a ha => hatoms a (by simp [ha])
    have hatom : atom.isAtom = true := hatoms atom (by simp)
    cases floating with
    | true =>
      rw [if_pos rfl] at hterms
      have hc : p.consumes = true := Pattern.consumes_iff.mpr ⟨.skip atom, by simp [hterms], rfl⟩
      rw [hterms] at hplaced
      obtain ⟨i, span, hi, hspan⟩ := exists_spanAt_skip_block hblock hplaced
      obtain ⟨start, stop, hmatched⟩ := matched_of_spanAt hgrounded hc hi (by rw [hterms]; exact hspan)
      exact ⟨start, stop, hmatched, by simp⟩
    | false =>
      rw [if_neg (by simp)] at hterms
      have hc : p.consumes = true :=
        Pattern.consumes_iff.mpr ⟨atom, by simp [hterms], Node.not_isAbsent_of_isAtom hatom⟩
      have hfull : ∀ a ∈ atom :: block, a.isAtom = true := by simpa [hatom] using hblock
      have hfound {other : Nat} {indices : List Nat} (hother : Placed frames p.terms other indices) :
          ∃ span, spanAt p.terms frames other = some span ∧ span.2 ≤ stopOf indices other := by
        rw [hterms] at hother ⊢
        exact exists_spanAt_block hfull hother
      obtain ⟨span, hspan, -⟩ := hfound hplaced
      have hholds : Holds frames atom start := by
        rw [hterms] at hplaced
        exact ((Placed.cons_atom_iff hatom).mp hplaced).1
      obtain ⟨first, stop, hmatched⟩ := matched_of_spanAt hgrounded hc hholds.lt_length hspan
      obtain ⟨first', stop', hspan', -, hfirst, hearlier⟩ := spanAt_of_matched hgrounded hc hmatched rfl
      simp only [Option.some.injEq, Prod.mk.injEq, Int.natCast_inj] at hspan'
      obtain ⟨rfl, rfl⟩ := hspan'
      refine ⟨first, stop, hmatched, fun _ other indices last hother hlast => ?_⟩
      obtain ⟨span, hspan, hstop⟩ := hfound hother
      constructor
      · refine Nat.le_of_not_lt fun hlt => ?_
        rw [hearlier other hlt] at hspan
        cases hspan
      · rintro rfl
        rw [hfirst] at hspan
        cases hspan
        rwa [stopOf_of_getLast? hlast] at hstop

/-- A block and a skip behind it, where the first frame `a` and the first frame `c` are no part of the
match. -/
theorem evaluate_takes_answer_block :
    let compile : String → Except Regex.CompileError (Frame → Bool) := fun text => .ok (· == text)
    let frames := ["a", "c", "a", "b", "c", "c"]
    ∃ p, parseWith compile "\x7ba\x7d,\x7bb\x7d..\x7bc\x7d" = .ok p ∧
      evaluate p frames = .ok ⟨true, some (2, 5)⟩ ∧
      (∃ indices, Placed frames p.terms 2 indices ∧ indices.length = 3 ∧ indices.getLast? = some 4) ∧
      ∀ other indices last, Placed frames p.terms other indices → indices.getLast? = some last →
        2 ≤ other ∧ (other = 2 → 5 ≤ last + 1) := by
  intro compile frames
  let leaf (text : String) : Node := .leaf text (· == text)
  have hparse : parseWith compile "\x7ba\x7d,\x7bb\x7d..\x7bc\x7d" = .ok ⟨"\x7ba\x7d,\x7bb\x7d..\x7bc\x7d",
      Node.chain (leaf "a") [leaf "b", .skip (leaf "c")]⟩ := by rfl
  have hmatched : evaluate ⟨"\x7ba\x7d,\x7bb\x7d..\x7bc\x7d",
      Node.chain (leaf "a") [leaf "b", .skip (leaf "c")]⟩ frames = .ok ⟨true, some (2, 5)⟩ := by rfl
  obtain ⟨hsound, hcomplete⟩ := evaluate_takes_answer _ () _ _ hparse frames
  obtain ⟨start, stop, last, indices, hspan, hplaced, -, hlength, hlast, hstop⟩ :=
    hsound _ hmatched rfl ⟨leaf "a", by simp [Pattern.terms, Node.chain, Node.flatten, leaf], rfl⟩
  simp only [Option.some.injEq, Prod.mk.injEq] at hspan
  obtain rfl : start = 2 := by omega
  obtain rfl : last = 4 := by omega
  obtain ⟨start', stop', hmatched', hleast⟩ := hcomplete false (leaf "a") [leaf "b"] [leaf "c"]
    (by simp [leaf, Node.isAtom]) rfl ⟨2, indices, hplaced⟩
  rw [hmatched] at hmatched'
  simp only [Except.ok.injEq, MatchResult.mk.injEq, Option.some.injEq, Prod.mk.injEq, true_and] at hmatched'
  obtain rfl : start' = 2 := by omega
  obtain rfl : stop' = 5 := by omega
  exact ⟨_, hparse, hmatched, ⟨indices, hplaced, hlength, hlast⟩, hleast rfl⟩

/-- With an atom next to one after a skip an answer may be missed: the skip commits to the first `b`. -/
example :
    evaluate ⟨"ast", Node.chain (.leaf "a" (· == "a")) [.skip (.leaf "b" (· == "b")), .leaf "c" (· == "c")]⟩
      ["a", "b", "b", "c"] = .ok .unmatched := by rfl

end StackQuery.Query
