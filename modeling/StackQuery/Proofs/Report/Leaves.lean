import StackQuery.Proofs.Counts.Coherent
import StackQuery.Proofs.Traversal
import StackQuery.Report.Leaves

/-!
# Rolling up leaves

The groups of a flat profile hold stacks by their last frames. Dropping a leaf takes it off the end of each
stack that ends with it, and moves no other sample. So whatever is dropped, every stack of the pass is held
once, cut back to a beginning of it, and the samples of a leaf are among those of its function.
-/
namespace StackQuery.Report

namespace Leaves

/-- The samples of the stacks that pass a test, added up. -/
def weight (l : Leaves) (test : List Frame → Bool) : Int :=
  l.groups.sumBy fun leaf contexts => contexts.weight fun context => test (context ++ [leaf])

/-- The samples that pass a test, with those that have no frame left. -/
def held (l : Leaves) (test : List Frame → Bool) : Int :=
  l.weight test + if test [] then l.exhausted else 0

variable {test : List Frame → Bool}

theorem add_append_singleton (l : Leaves) (context : List Frame) (leaf : Frame) (n : Int) :
    l.add (context ++ [leaf]) n =
      { l with groups := l.groups.insert leaf ((l.groups.getD leaf .empty).add context n) } := by
  simp [add]

theorem held_add (l : Leaves) (stack : List Frame) (n : Int) (test : List Frame → Bool) :
    (l.add stack n).held test = l.held test + if test stack then n else 0 := by
  rcases stack.eq_nil_or_concat with rfl | ⟨context, leaf, rfl⟩
  · simp only [add_nil, held, weight]
    split <;> omega
  · have hbefore : l.groups.measureAt (fun leaf contexts => contexts.weight fun context => test (context ++ [leaf]))
        leaf = (l.groups.getD leaf .empty).weight fun context => test (context ++ [leaf]) := by
      rw [OrderedMap.measureAt, OrderedMap.getD]
      cases l.groups.get? leaf <;> rfl
    rw [List.concat_eq_append, add_append_singleton]
    simp only [held, weight, OrderedMap.sumBy_insert, hbefore, Tally.weight_add]
    omega

theorem held_addAll (l : Leaves) (tally : Tally (List Frame)) (test : List Frame → Bool) :
    (l.addAll tally).held test = l.held test + tally.weight test := by
  have hfold (es : List (List Frame × Int)) (l : Leaves) :
      (es.foldl (fun l e => l.add e.1 e.2) l).held test =
        l.held test + (es.map fun e => if test e.1 then e.2 else 0).sum := by
    induction es generalizing l with
    | nil => simp
    | cons e rest ih => rw [List.foldl_cons, ih, held_add, List.map_cons, List.sum_cons, Int.add_assoc]
  exact hfold tally.entries l

/-- A stack without its last frame, if that is the leaf. -/
def strip (leaf : Frame) (stack : List Frame) : List Frame :=
  if stack.getLast? = some leaf then stack.dropLast else stack

theorem strip_append_singleton (leaf last : Frame) (context : List Frame) :
    strip leaf (context ++ [last]) = if last = leaf then context else context ++ [last] := by
  simp [strip]

theorem strip_nil (leaf : Frame) : strip leaf [] = [] := rfl

theorem held_drop (l : Leaves) (leaf : Frame) (test : List Frame → Bool) :
    (l.drop leaf).held test = l.held fun stack => test (strip leaf stack) := by
  rw [drop, held_addAll]
  -- the leaf's group is out of the sum and its stacks come back without the leaf; the others are as they were
  have hkept : (l.groups.erase leaf).sumBy
        (fun last contexts => contexts.weight fun context => test (context ++ [last])) =
      (l.groups.erase leaf).sumBy
        (fun last contexts => contexts.weight fun context => test (strip leaf (context ++ [last]))) := by
    refine OrderedMap.sumBy_congr fun e he => ?_
    have hne : e.1 ≠ leaf := by simpa using (List.mem_filter.mp he).2
    simp only [strip_append_singleton, if_neg hne]
  have hdropped : l.groups.measureAt
        (fun last contexts => contexts.weight fun context => test (strip leaf (context ++ [last]))) leaf =
      (l.groups.getD leaf .empty).weight test := by
    rw [OrderedMap.measureAt, OrderedMap.getD]
    simp only [strip_append_singleton, if_true]
    cases l.groups.get? leaf <;> rfl
  have herase := OrderedMap.sumBy_erase
    (fun last contexts => contexts.weight fun context => test (strip leaf (context ++ [last]))) l.groups leaf
  simp only [held, weight, strip_nil]
  rw [hkept, herase, hdropped]
  rw [Int.add_right_comm, Int.sub_add_cancel]
  rfl

/-- A stack is kept under its last frame, whatever its count. -/
def Has (l : Leaves) (stack : List Frame) : Prop :=
  ∃ leaf, stack.getLast? = some leaf ∧ stack.dropLast ∈ (l.groups.getD leaf .empty).keys

theorem has_append_singleton {l : Leaves} {context : List Frame} {leaf : Frame} :
    l.Has (context ++ [leaf]) ↔ context ∈ (l.groups.getD leaf .empty).keys := by
  simp [Has]

theorem not_has_nil (l : Leaves) : ¬ l.Has [] := by
  simp [Has]

theorem Has.exists_append {l : Leaves} {s : List Frame} (h : l.Has s) :
    ∃ context leaf, s = context ++ [leaf] ∧ context ∈ (l.groups.getD leaf .empty).keys := by
  obtain ⟨leaf, hleaf, hcontext⟩ := h
  exact ⟨s.dropLast, leaf, (List.dropLast_append_getLast? leaf hleaf).symm, hcontext⟩

theorem has_add {l : Leaves} {stack s : List Frame} {n : Int} :
    (l.add stack n).Has s ↔ l.Has s ∨ s = stack ∧ s ≠ [] := by
  rcases s.eq_nil_or_concat with rfl | ⟨context, leaf, rfl⟩
  · simp [not_has_nil]
  · rcases stack.eq_nil_or_concat with rfl | ⟨outer, last, rfl⟩
    · simp [add_nil, Has]
    · rw [List.concat_eq_append, List.concat_eq_append, add_append_singleton, has_append_singleton,
        has_append_singleton, OrderedMap.getD_insert]
      by_cases h : last = leaf
      · subst h
        rw [if_pos rfl, Tally.mem_keys_add]
        simp
      · simp [h, Ne.symm h]

theorem has_addAll {l : Leaves} {tally : Tally (List Frame)} {s : List Frame} :
    (l.addAll tally).Has s ↔ l.Has s ∨ s ∈ tally.keys ∧ s ≠ [] := by
  have hfold (es : List (List Frame × Int)) (l : Leaves) :
      (es.foldl (fun l e => l.add e.1 e.2) l).Has s ↔ l.Has s ∨ s ∈ es.map Prod.fst ∧ s ≠ [] := by
    induction es generalizing l with
    | nil => simp
    | cons e rest ih => rw [List.foldl_cons, ih, has_add, List.map_cons, List.mem_cons, or_assoc, ← or_and_right]
  exact hfold tally.entries l

theorem has_erase {l : Leaves} {leaf last : Frame} {context : List Frame} :
    { l with groups := l.groups.erase leaf }.Has (context ++ [last]) ↔
      l.Has (context ++ [last]) ∧ last ≠ leaf := by
  rw [has_append_singleton, has_append_singleton, OrderedMap.getD_erase]
  by_cases h : leaf = last
  · simp [h, OrderedMap.empty, OrderedMap.keys]
  · simp [h, Ne.symm h]

theorem has_drop {l : Leaves} {leaf : Frame} {s : List Frame} :
    (l.drop leaf).Has s ↔ s ≠ [] ∧ ∃ stack, l.Has stack ∧ strip leaf stack = s := by
  rw [drop, has_addAll]
  constructor
  · rintro (h | ⟨hmem, hne⟩)
    · obtain ⟨context, last, rfl, -⟩ := h.exists_append
      obtain ⟨hhas, hlast⟩ := has_erase.mp h
      exact ⟨by simp, _, hhas, by rw [strip_append_singleton, if_neg hlast]⟩
    · exact ⟨hne, s ++ [leaf], has_append_singleton.mpr hmem, by rw [strip_append_singleton, if_pos rfl]⟩
  · rintro ⟨hne, stack, hstack, rfl⟩
    obtain ⟨context, last, rfl, hcontext⟩ := hstack.exists_append
    rw [strip_append_singleton] at hne ⊢
    by_cases hlast : last = leaf
    · rw [if_pos hlast] at hne ⊢
      exact .inr ⟨hlast ▸ hcontext, hne⟩
    · rw [if_neg hlast]
      exact .inl (has_erase.mpr ⟨hstack, hlast⟩)

def Grouped (l : Leaves) : Prop := ∀ leaf ∈ l.groups.keys, ∃ context, l.Has (context ++ [leaf])

theorem mem_keys_of_has {l : Leaves} {context : List Frame} {leaf : Frame} (h : l.Has (context ++ [leaf])) :
    leaf ∈ l.groups.keys := by
  by_contra hleaf
  rw [has_append_singleton, OrderedMap.getD, OrderedMap.get?_eq_none_iff.mpr hleaf] at h
  cases h

variable {l : Leaves}

theorem grouped_empty : empty.Grouped := nofun

theorem Grouped.add (h : l.Grouped) (stack : List Frame) (n : Int) : (l.add stack n).Grouped := by
  intro leaf hleaf
  rcases stack.eq_nil_or_concat with rfl | ⟨context, last, rfl⟩
  · exact h leaf hleaf
  · rw [List.concat_eq_append] at hleaf ⊢
    rw [add_append_singleton, OrderedMap.keys_insert] at hleaf
    by_cases hlast : leaf = last
    · exact ⟨context, has_add.mpr (.inr ⟨by rw [hlast], by simp⟩)⟩
    · have hold : leaf ∈ l.groups.keys := by
        split at hleaf
        · exact hleaf
        · simpa [hlast] using hleaf
      obtain ⟨inside, hinside⟩ := h leaf hold
      exact ⟨inside, has_add.mpr (.inl hinside)⟩

theorem Grouped.addAll (h : l.Grouped) (tally : Tally (List Frame)) : (l.addAll tally).Grouped := by
  have hfold (es : List (List Frame × Int)) {l : Leaves} (h : l.Grouped) :
      (es.foldl (fun l e => l.add e.1 e.2) l).Grouped := by
    induction es generalizing l with
    | nil => exact h
    | cons e rest ih => exact ih (h.add e.1 e.2)
  exact hfold tally.entries h

theorem Grouped.drop (h : l.Grouped) (leaf : Frame) : (l.drop leaf).Grouped := by
  have herase : { l with groups := l.groups.erase leaf }.Grouped := by
    intro last hlast
    obtain ⟨hold, hne⟩ := OrderedMap.mem_keys_erase.mp hlast
    obtain ⟨context, hcontext⟩ := h last hold
    exact ⟨context, has_erase.mpr ⟨hcontext, hne⟩⟩
  exact herase.addAll _

section
variable {ε : Type} {rare : Frame → Except ε Bool} {tally : Tally (List Frame)} {cut : List Frame → List Frame}

/-- The stacks of a tally, each held once, after rare frames have been dropped from its end. -/
structure Cut (rare : Frame → Except ε Bool) (tally : Tally (List Frame)) (l : Leaves)
    (cut : List Frame → List Frame) : Prop where
  dropped (stack : List Frame) : ∃ inner, stack = cut stack ++ inner ∧ ∀ f ∈ inner, rare f = .ok true
  held (test : List Frame → Bool) : l.held test = tally.weight fun stack => test (cut stack)
  has (s : List Frame) : l.Has s ↔ s ≠ [] ∧ ∃ stack ∈ tally.keys, cut stack = s
  grouped : l.Grouped

theorem cut_addAll_empty (rare : Frame → Except ε Bool) (tally : Tally (List Frame)) :
    Cut rare tally (empty.addAll tally) id where
  dropped stack := ⟨[], by simp, nofun⟩
  held test := by
    rw [held_addAll, held]
    simp [empty, weight, OrderedMap.sumBy, OrderedMap.empty]
  has s := by
    have hempty : ¬ empty.Has s := fun h => by
      obtain ⟨context, leaf, -, hcontext⟩ := h.exists_append
      cases hcontext
    rw [has_addAll]
    simp [hempty, and_comm]
  grouped := grouped_empty.addAll tally

theorem Cut.isPrefix (h : Cut rare tally l cut) (stack : List Frame) : cut stack <+: stack := by
  obtain ⟨inner, hstack, -⟩ := h.dropped stack
  exact ⟨inner, hstack.symm⟩

theorem Cut.drop (h : Cut rare tally l cut) {leaf : Frame} (hrare : rare leaf = .ok true) :
    Cut rare tally (l.drop leaf) fun stack => strip leaf (cut stack) where
  dropped stack := by
    obtain ⟨inner, hstack, hinner⟩ := h.dropped stack
    rcases (cut stack).eq_nil_or_concat with hcut | ⟨context, last, hcut⟩
    · exact ⟨inner, by rwa [hcut, strip_nil, ← hcut], hinner⟩
    · rw [hcut, List.concat_eq_append, strip_append_singleton]
      rw [hcut, List.concat_eq_append] at hstack
      split
      · next hlast =>
        refine ⟨last :: inner, by simpa using hstack, ?_⟩
        simpa [hlast, hrare] using hinner
      · exact ⟨inner, hstack, hinner⟩
  held test := by rw [held_drop, h.held]
  has s := by
    rw [has_drop]
    refine and_congr_right fun hne => ?_
    constructor
    · rintro ⟨_, hhas, rfl⟩
      obtain ⟨-, stack, hstack, rfl⟩ := (h.has _).mp hhas
      exact ⟨stack, hstack, rfl⟩
    · rintro ⟨stack, hstack, rfl⟩
      have hcut : cut stack ≠ [] := fun hcut => hne (by rw [hcut, strip_nil])
      exact ⟨cut stack, (h.has _).mpr ⟨hcut, stack, hstack, rfl⟩, rfl⟩
  grouped := h.grouped.drop leaf

theorem Cut.foldl_drop {leaves : List Frame} (hrare : ∀ leaf ∈ leaves, rare leaf = .ok true)
    (h : Cut rare tally l cut) : ∃ cut', Cut rare tally (leaves.foldl Leaves.drop l) cut' := by
  induction leaves generalizing l cut with
  | nil => exact ⟨cut, h⟩
  | cons leaf rest ih =>
    obtain ⟨hleaf, hrest⟩ := List.forall_mem_cons.mp hrare
    exact ih hrest (h.drop hleaf)

/-- The rounds of a rollup, as many as it takes. -/
inductive RollsUp (rare : Frame → Except ε Bool) : Leaves → Except ε Leaves → Prop where
  | failed {l : Leaves} {e : ε} (asked : l.failing rare = .error e) : RollsUp rare l (.error e)
  | settled {l : Leaves} (asked : l.failing rare = .ok []) : RollsUp rare l (.ok l)
  | round {l : Leaves} {leaf : Frame} {more : List Frame} {out : Except ε Leaves}
      (asked : l.failing rare = .ok (leaf :: more))
      (rest : RollsUp rare ((leaf :: more).foldl drop l) out) : RollsUp rare l out

theorem mem_failing {leaves : List Frame} (h : l.failing rare = .ok leaves) (leaf : Frame) :
    (leaf ∈ leaves ↔ leaf ∈ l.groups.keys ∧ rare leaf = .ok true) ∧
      (leaf ∈ l.groups.keys → ∃ b, rare leaf = .ok b) := by
  obtain ⟨hall, hmem⟩ := filterM_eq_ok h
  exact ⟨hmem leaf, hall leaf⟩

/-- A rollup ends at stacks that are cut back as far as they go, or at a leaf that cannot be judged. -/
theorem RollsUp.ends_cut {out : Except ε Leaves} (h : RollsUp rare l out) (hcut : Cut rare tally l cut) :
    ∃ l' cut', Cut rare tally l' cut' ∧
      (out = .ok l' ∧ l'.failing rare = .ok [] ∨ ∃ e, out = .error e ∧ l'.failing rare = .error e) := by
  induction h generalizing cut with
  | failed asked => exact ⟨_, cut, hcut, .inr ⟨_, rfl, asked⟩⟩
  | settled asked => exact ⟨_, cut, hcut, .inl ⟨rfl, asked⟩⟩
  | round asked _ ih =>
    obtain ⟨cut', hcut'⟩ := hcut.foldl_drop fun leaf hleaf => ((mem_failing asked leaf).1.mp hleaf).2
    exact ih hcut'

/-- Stacks under leaves that may be rare are no longer than a bound. -/
def Bounded (rare : Frame → Except ε Bool) (l : Leaves) (n : Nat) : Prop :=
  ∀ context leaf, l.Has (context ++ [leaf]) → rare leaf = .ok false ∨ context.length < n

theorem has_foldl_drop {leaves : List Frame} {s : List Frame} (h : (leaves.foldl drop l).Has s) :
    ∃ stack, l.Has stack ∧ leaves.foldl (fun stack leaf => strip leaf stack) stack = s := by
  induction leaves generalizing l with
  | nil => exact ⟨s, h, rfl⟩
  | cons leaf rest ih =>
    obtain ⟨_, hhas, hs⟩ := ih h
    obtain ⟨-, stack, hstack, rfl⟩ := has_drop.mp hhas
    exact ⟨stack, hstack, hs⟩

theorem strip_isPrefix (leaf : Frame) (stack : List Frame) : strip leaf stack <+: stack := by
  unfold strip
  split
  · exact List.dropLast_prefix stack
  · exact List.prefix_rfl

theorem foldl_strip_isPrefix (leaves stack : List Frame) :
    leaves.foldl (fun stack leaf => strip leaf stack) stack <+: stack := by
  induction leaves generalizing stack with
  | nil => exact List.prefix_rfl
  | cons leaf rest ih => exact (ih _).trans (strip_isPrefix leaf stack)

/-- A stack that ends with one of the leaves loses a frame, and any other stack none. -/
theorem foldl_strip_append_singleton (leaves context : List Frame) (last : Frame) :
    if last ∈ leaves then leaves.foldl (fun stack leaf => strip leaf stack) (context ++ [last]) <+: context
    else leaves.foldl (fun stack leaf => strip leaf stack) (context ++ [last]) = context ++ [last] := by
  induction leaves with
  | nil => rfl
  | cons leaf rest ih =>
    rw [List.foldl_cons, strip_append_singleton]
    by_cases hlast : last = leaf
    · simpa [hlast] using foldl_strip_isPrefix rest context
    · simpa [hlast] using ih

theorem Bounded.round {n : Nat} {leaves : List Frame} (h : Bounded rare l (n + 1))
    (hleaves : l.failing rare = .ok leaves) : Bounded rare (leaves.foldl drop l) n := by
  intro context leaf hhas
  obtain ⟨stack, hstack, hstrip⟩ := has_foldl_drop hhas
  obtain ⟨outer, last, rfl, -⟩ := hstack.exists_append
  have hlast : last ∈ l.groups.keys := mem_keys_of_has hstack
  have hfold := foldl_strip_append_singleton leaves outer last
  rw [hstrip] at hfold
  by_cases hmem : last ∈ leaves
  · rw [if_pos hmem] at hfold
    have hlength := hfold.length_le
    rw [List.length_append, List.length_singleton] at hlength
    rcases h outer last hstack with hkept | hshort
    · rw [((mem_failing hleaves last).1.mp hmem).2] at hkept
      cases hkept
    · exact .inr (by omega)
  · rw [if_neg hmem] at hfold
    obtain ⟨-, rfl⟩ : context = outer ∧ leaf = last := by simpa using hfold
    obtain ⟨b, hb⟩ := (mem_failing hleaves leaf).2 hlast
    cases b with
    | false => exact .inl hb
    | true => exact absurd ((mem_failing hleaves leaf).1.mpr ⟨hlast, hb⟩) hmem

theorem Grouped.foldl_drop {leaves : List Frame} (h : l.Grouped) : (leaves.foldl Leaves.drop l).Grouped := by
  induction leaves generalizing l with
  | nil => exact h
  | cons leaf rest ih => exact ih (h.drop leaf)

/-- As many rounds as the longest stack has frames, and one that finds nothing more to drop, are all. -/
theorem rollsUp_settle {l : Leaves} {n : Nat} (hgrouped : l.Grouped) (h : Bounded rare l n) :
    RollsUp rare l (l.settle rare (n + 1)) := by
  rw [settle]
  cases hleaves : l.failing rare with
  | error e => exact .failed hleaves
  | ok leaves =>
    cases leaves with
    | nil => exact .settled hleaves
    | cons leaf more =>
      cases n with
      | zero =>
        obtain ⟨hmem, hrare⟩ := (mem_failing hleaves leaf).1.mp List.mem_cons_self
        obtain ⟨context, hcontext⟩ := hgrouped leaf hmem
        rcases h context leaf hcontext with hkept | hshort
        · rw [hrare] at hkept
          cases hkept
        · exact absurd hshort (Nat.not_lt_zero _)
      | succ n => exact .round hleaves (rollsUp_settle hgrouped.foldl_drop (h.round hleaves))
  termination_by n

theorem length_le_longest {stack : List Frame} (h : stack ∈ tally.keys) : stack.length ≤ longest tally := by
  have hfold (ns : List Nat) (least : Nat) :
      least ≤ ns.foldl max least ∧ ∀ n ∈ ns, n ≤ ns.foldl max least := by
    induction ns generalizing least with
    | nil => simp
    | cons n rest ih =>
      obtain ⟨hleast, hrest⟩ := ih (max least n)
      exact ⟨(Nat.le_max_left ..).trans hleast, List.forall_mem_cons.mpr ⟨(Nat.le_max_right ..).trans hleast, hrest⟩⟩
  exact (hfold _ 0).2 _ (List.mem_map_of_mem h)

theorem bounded_addAll_empty (rare : Frame → Except ε Bool) (tally : Tally (List Frame)) :
    Bounded rare (empty.addAll tally) (longest tally) := by
  intro context leaf h
  obtain ⟨-, stack, hstack, heq⟩ := ((cut_addAll_empty rare tally).has _).mp h
  have hlength := length_le_longest hstack
  rw [show stack = context ++ [leaf] from heq, List.length_append, List.length_singleton] at hlength
  exact .inr (by omega)

theorem rollsUp_tally (rare : Frame → Except ε Bool) (tally : Tally (List Frame)) :
    RollsUp rare (empty.addAll tally) ((empty.addAll tally).settle rare (longest tally + 1)) :=
  rollsUp_settle (grouped_empty.addAll tally) (bounded_addAll_empty rare tally)

/-- A rollup that succeeds leaves every stack cut back to a frame that is not rare, or to nothing. -/
theorem cut_of_settle {l' : Leaves} (h : (empty.addAll tally).settle rare (longest tally + 1) = .ok l') :
    ∃ cut, Cut rare tally l' cut ∧ l'.failing rare = .ok [] := by
  obtain ⟨l'', cut, hcut, ⟨heq, hfailing⟩ | ⟨_, heq, -⟩⟩ :=
    (rollsUp_tally rare tally).ends_cut (cut_addAll_empty rare tally)
  · cases h.symm.trans heq
    exact ⟨cut, hcut, hfailing⟩
  · cases h.symm.trans heq

end

theorem sum_values (contexts : Tally (List Frame)) :
    contexts.values.foldl (· + ·) 0 = contexts.weight fun _ => true := by
  rw [← List.sum_eq_foldl]
  rfl

/-- The samples of a leaf are those of the stacks that end with it. -/
theorem count_sums (l : Leaves) (leaf : Frame) :
    l.sums.count leaf = l.held fun stack => stack.getLast? = some leaf := by
  have hweight : (l.weight fun stack => stack.getLast? = some leaf) =
      l.groups.sumBy fun last contexts => if last = leaf then contexts.weight fun _ => true else 0 := by
    refine OrderedMap.sumBy_congr fun e _ => ?_
    by_cases he : e.1 = leaf
    · simp [he]
    · simp [he, Tally.weight_never]
  rw [held, hweight, OrderedMap.sumBy_single, Tally.count, OrderedMap.getD, sums, OrderedMap.get?_mapValues]
  simp [sum_values]

end Leaves
variable {total : Int} {ranked : List (Frame × Int)} {rows : List Row}

theorem mem_ranked_of_mem_rowsOf (h : rowsOf total ranked = .ok rows) {row : Row} (hrow : row ∈ rows) :
    (row.name, row.count) ∈ ranked := by
  obtain ⟨e, he, hrow⟩ := exists_of_mem_mapM h hrow
  obtain ⟨share, -, hmake⟩ := bind_eq_ok_iff.mp hrow
  cases hmake
  exact he

/-- A row of a flat profile counts stacks that its function is in: what is left of a stack ends with the
leaf, and is a beginning of the stack. -/
theorem count_le_of_flatten {counts : Counts} (hcoherent : counts.Coherent) {cutoff : Number} {view : FlatView}
    (h : flatten counts cutoff = .ok view) {row : Row} (hrow : row ∈ view.rows) :
    row.count ≤ counts.functions.count row.name := by
  rw [flatten] at h
  split at h
  · cases h
  obtain ⟨leaves, hleaves, hrest⟩ := bind_eq_ok_iff.mp h
  obtain ⟨rows, hrows, hrest⟩ := bind_eq_ok_iff.mp hrest
  cases hrest
  obtain ⟨cut, hcut, -⟩ := Leaves.cut_of_settle hleaves
  have hentry : (row.name, row.count) ∈ leaves.sums.entries :=
    (List.mergeSort_perm _ _).mem_iff.mp (mem_ranked_of_mem_rowsOf hrows hrow)
  have hcount : leaves.sums.count row.name = row.count := Tally.count_of_mem hentry
  rw [← hcount, Leaves.count_sums, hcut.held, hcoherent.functions]
  refine Tally.weight_mono hcoherent.nonneg fun stack hends => ?_
  have hlast : row.name ∈ cut stack := List.mem_of_getLast? (of_decide_eq_true hends)
  exact decide_eq_true ((hcut.isPrefix stack).subset hlast)

end StackQuery.Report
