import StackQuery.Proofs.Counts.Merge
import StackQuery.Proofs.Rename.Memo
import StackQuery.Proofs.Traversal

/-!
# Counting as recording contributions

What a sample adds depends on the sample alone, whatever names are remembered. Counting records the
contributions of the samples one after the other, up to the first sample that fails; hence counting
samples after others is merging what each of the two lists gives.
-/
namespace StackQuery

namespace Aggregator

variable (a : Aggregator)

/-- What a sample adds, or why it cannot be counted. -/
def contributionOf (sample : Sample) : Except SampleError Contribution :=
  match a.renamer.renameAll sample with
  | .error e => .error (.rename e)
  | .ok frames =>
    match a.contribution frames with
    | .error e => .error (.span e)
    | .ok c => .ok c

theorem process_of_sound {memo : Renamer.Memo} (h : a.renamer.Sound memo) (sample : Sample)
    (counts : Counts) :
    ∃ memo', a.renamer.Sound memo' ∧ a.process sample memo counts =
      match a.contributionOf sample with
      | .error e => (.error e, memo', counts)
      | .ok c => (.ok c.result, memo', counts.record a.keepStacks c) := by
  obtain ⟨hframes, hsound⟩ := Renamer.renameAllIn_of_sound h sample
  refine ⟨_, hsound, ?_⟩
  rw [process, contributionOf, ← hframes]
  cases hr : a.renamer.renameAllIn sample memo with
  | mk result memo' =>
    cases result with
    | error e => rfl
    | ok frames =>
      dsimp only
      cases a.contribution frames <;> rfl

theorem countFrom_of_sound {memo : Renamer.Memo} (h : a.renamer.Sound memo) (samples : List Sample)
    (counts : Counts) :
    a.countFrom samples memo counts =
      (samples.mapM a.contributionOf).map (counts.recordAll a.keepStacks) := by
  induction samples generalizing memo counts with
  | nil => rfl
  | cons sample rest ih =>
    obtain ⟨memo', hsound, hprocess⟩ := a.process_of_sound h sample counts
    rw [countFrom, hprocess, List.mapM_cons]
    cases a.contributionOf sample with
    | error e => rfl
    | ok c =>
      dsimp only
      rw [ih hsound]
      cases rest.mapM a.contributionOf <;> rfl

theorem count_eq (samples : List Sample) :
    a.count samples = (samples.mapM a.contributionOf).map (Counts.zero.recordAll a.keepStacks) :=
  a.countFrom_of_sound (Renamer.sound_empty _) samples .zero

theorem count_eq_error_iff {samples : List Sample} {e : SampleError} :
    a.count samples = .error e ↔
      ∃ before sample after, samples = before ++ sample :: after ∧
        (∀ s ∈ before, ∃ c, a.contributionOf s = .ok c) ∧ a.contributionOf sample = .error e := by
  rw [count_eq, ← mapM_eq_error_iff]
  cases samples.mapM a.contributionOf <;> simp [Except.map]

/-- Samples counted after others: the counts of both are merged, and the first failure is kept. -/
theorem count_append (xs ys : List Sample) :
    a.count (xs ++ ys) =
      match a.count xs with
      | .error e => .error e
      | .ok c => (a.count ys).map c.merge := by
  simp only [count_eq, List.mapM_append]
  cases xs.mapM a.contributionOf with
  | error e => rfl
  | ok cs =>
    cases ys.mapM a.contributionOf with
    | error e => rfl
    | ok ds =>
      change Except.ok (Counts.zero.recordAll a.keepStacks (cs ++ ds)) = _
      rw [Counts.recordAll_append, Counts.recordAll_eq_merge]
      rfl

end Aggregator

end StackQuery
