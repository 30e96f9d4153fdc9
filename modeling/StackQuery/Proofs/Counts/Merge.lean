import StackQuery.Aggregation.Basic
import StackQuery.Proofs.Counts.Tally

/-!
# Merging counts

Recording a contribution in the second of two counts and then merging is the same as merging and then
recording it, with every key in its place. Nothing counted is neutral on both sides.
-/
namespace StackQuery.Counts

theorem addAll_addEach {κ : Type} [DecidableEq κ] (t u : Tally κ) (keys : List κ) :
    t.addAll (addEach u keys) = addEach (t.addAll u) keys := by
  induction keys generalizing u with
  | nil => rfl
  | cons k rest ih =>
    change t.addAll (addEach (u.add k 1) rest) = addEach ((t.addAll u).add k 1) rest
    rw [ih, Tally.addAll_add]

theorem merge_addFrames (c d : Counts) (frames : List Frame) :
    c.merge (d.addFrames frames) = (c.merge d).addFrames frames := by
  simp only [merge, addFrames, addAll_addEach]

theorem merge_addStack (c d : Counts) (frames : List Frame) :
    c.merge (d.addStack frames) = (c.merge d).addStack frames := by
  simp only [merge, addStack, Tally.addAll_add]

theorem merge_countSample (c d : Counts) (matched : Bool) :
    c.merge { d with
      total := d.total + 1
      matched := if matched then d.matched + 1 else d.matched } =
    { c.merge d with
      total := (c.merge d).total + 1
      matched := if matched then (c.merge d).matched + 1 else (c.merge d).matched } := by
  cases matched <;> simp [merge, Int.add_assoc]

theorem merge_record (c d : Counts) (keepStacks : Bool) (x : Contribution) :
    c.merge (d.record keepStacks x) = (c.merge d).record keepStacks x := by
  simp only [record]
  cases x.fed with
  | none => exact merge_countSample c d x.result.matched
  | some fed =>
    rw [← merge_countSample c d x.result.matched]
    cases hfed : fed.isEmpty <;> cases keepStacks <;>
      simp only [hfed, Bool.false_eq_true, if_false, if_true, merge_addFrames, merge_addStack]

theorem zero_merge (c : Counts) : zero.merge c = c := by
  have h {κ : Type} [DecidableEq κ] (t : Tally κ) : Tally.addAll (.empty : Tally κ) t = t := by
    apply Tally.eq_of_keys_count
    · rw [Tally.keys_addAll]
      simp [OrderedMap.keys, OrderedMap.empty]
    · intro k
      rw [Tally.count_addAll]
      simp [Tally.count, OrderedMap.getD]
  cases c
  simp [merge, zero, h]

def recordAll (counts : Counts) (keepStacks : Bool) (contributions : List Contribution) : Counts :=
  contributions.foldl (fun counts x => counts.record keepStacks x) counts

@[simp] theorem recordAll_cons (counts : Counts) (keepStacks : Bool) (x : Contribution)
    (rest : List Contribution) :
    counts.recordAll keepStacks (x :: rest) =
      (counts.record keepStacks x).recordAll keepStacks rest := rfl

theorem recordAll_append (counts : Counts) (keepStacks : Bool) (xs ys : List Contribution) :
    counts.recordAll keepStacks (xs ++ ys) =
      (counts.recordAll keepStacks xs).recordAll keepStacks ys :=
  List.foldl_append

theorem merge_recordAll (c d : Counts) (keepStacks : Bool) (xs : List Contribution) :
    c.merge (d.recordAll keepStacks xs) = (c.merge d).recordAll keepStacks xs := by
  induction xs generalizing d with
  | nil => rfl
  | cons x rest ih => rw [recordAll_cons, recordAll_cons, ih, merge_record]

theorem recordAll_eq_merge (c : Counts) (keepStacks : Bool) (xs : List Contribution) :
    c.recordAll keepStacks xs = c.merge (zero.recordAll keepStacks xs) := by
  rw [merge_recordAll, merge_zero]

end StackQuery.Counts
