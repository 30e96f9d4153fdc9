import StackQuery.Rename.Renamer

/-!
# Remembered names

A memo is sound when each name in it is the one that the rules give. Renaming with a sound memo gives
what renaming without one gives, whether it fails or not, and leaves a sound memo. So a memo that any calls
leave is sound.
-/
namespace StackQuery.Renamer

variable {r : Renamer} {memo : Memo}

/-- Every remembered name is the one that the rules give. -/
def Sound (r : Renamer) (memo : Memo) : Prop :=
  ∀ name renamed, memo.get? name = some renamed → r.rename name = .ok renamed

theorem sound_empty (r : Renamer) : r.Sound .empty := by
  intro name renamed h
  rw [OrderedMap.get?_empty] at h
  cases h

theorem Sound.insert (h : r.Sound memo) {name renamed : Frame} (hr : r.rename name = .ok renamed) :
    r.Sound (memo.insert name renamed) := by
  intro other known hknown
  rw [OrderedMap.get?_insert] at hknown
  split at hknown
  · next heq =>
    cases hknown
    exact heq ▸ hr
  · exact h other known hknown

theorem renameIn_of_sound (h : r.Sound memo) (name : Frame) :
    (r.renameIn name memo).1 = r.rename name ∧ r.Sound (r.renameIn name memo).2 := by
  unfold renameIn
  cases hm : memo.get? name with
  | some known => exact ⟨(h name known hm).symm, h⟩
  | none =>
    cases hr : r.rename name with
    | error e => exact ⟨rfl, h⟩
    | ok renamed => exact ⟨rfl, h.insert hr⟩

theorem renameAll_cons (r : Renamer) (name : Frame) (rest : List Frame) :
    r.renameAll (name :: rest) =
      match r.rename name with
      | .error e => .error e
      | .ok renamed =>
        match r.renameAll rest with
        | .error e => .error e
        | .ok names => .ok (renamed :: names) := by
  simp only [renameAll, List.mapM_cons]
  cases r.rename name with
  | error e => rfl
  | ok renamed => cases rest.mapM r.rename <;> rfl

theorem renameEachIn_of_sound (h : r.Sound memo) (frames : List Frame) :
    (r.renameEachIn frames memo).1 = r.renameAll frames ∧ r.Sound (r.renameEachIn frames memo).2 := by
  induction frames generalizing memo with
  | nil => exact ⟨rfl, h⟩
  | cons name rest ih =>
    obtain ⟨hname, hsound⟩ := renameIn_of_sound h name
    obtain ⟨hrest, hlast⟩ := ih hsound
    rw [renameAll_cons, ← hname, ← hrest, renameEachIn]
    cases hn : r.renameIn name memo with
    | mk result memo' =>
      rw [hn] at hsound hlast
      cases result with
      | error e => exact ⟨rfl, hsound⟩
      | ok renamed =>
        dsimp only at hlast ⊢
        cases hr : r.renameEachIn rest memo' with
        | mk result memo'' =>
          rw [hr] at hlast
          cases result with
          | error e => exact ⟨rfl, hlast⟩
          | ok names => exact ⟨rfl, hlast⟩

theorem renameAll_of_no_rules (h : r.rules.isEmpty = true) (frames : List Frame) :
    r.renameAll frames = .ok frames := by
  have hr (name : Frame) : r.rename name = .ok name := by
    rw [rename, List.isEmpty_iff.mp h]
    rfl
  induction frames with
  | nil => rfl
  | cons name rest ih => rw [renameAll_cons, hr, ih]

theorem renameAllIn_of_sound (h : r.Sound memo) (frames : List Frame) :
    (r.renameAllIn frames memo).1 = r.renameAll frames ∧ r.Sound (r.renameAllIn frames memo).2 := by
  unfold renameAllIn
  split
  · next hrules => exact ⟨(renameAll_of_no_rules hrules frames).symm, h⟩
  · exact renameEachIn_of_sound h frames

inductive Call where
  | one (name : Frame)
  | all (frames : List Frame)

/-- The names that are known after a call, whether it failed or not. -/
def Call.remember (r : Renamer) : Call → Memo → Memo
  | one name, memo => (r.renameIn name memo).2
  | all frames, memo => (r.renameAllIn frames memo).2

/-- The names that a renamer knows after calls, the first of which found it fresh. -/
def memoAfter (r : Renamer) (calls : List Call) : Memo :=
  calls.foldl (fun memo call => call.remember r memo) .empty

theorem Sound.remember (h : r.Sound memo) (call : Call) : r.Sound (call.remember r memo) := by
  cases call with
  | one name => exact (renameIn_of_sound h name).2
  | all frames => exact (renameAllIn_of_sound h frames).2

theorem sound_memoAfter (r : Renamer) (calls : List Call) : r.Sound (r.memoAfter calls) := by
  have hrun {memo : Memo} (h : r.Sound memo) :
      r.Sound (calls.foldl (fun memo call => call.remember r memo) memo) := by
    induction calls generalizing memo with
    | nil => exact h
    | cons call rest ih => exact ih (h.remember call)
  exact hrun (sound_empty r)

/-- A name in which the first rule that finds its regex replaces what it finds; the name itself if no rule
does. -/
def byFirstRule (r : Renamer) (name : Frame) : Except Regex.TemplateError Frame :=
  match r.rules.find? (fun rule => rule.regex.found name) with
  | some rule => rule.regex.substitute rule.replacement name
  | none => .ok name

theorem rename_eq_byFirstRule (r : Renamer) (name : Frame) : r.rename name = r.byFirstRule name := by
  unfold rename byFirstRule
  induction r.rules with
  | nil => rfl
  | cons rule rest ih =>
    rw [firstOf, List.find?_cons]
    cases hfound : rule.regex.found name with
    | false =>
      rw [RenameRule.apply_of_not_found hfound]
      exact ih
    | true =>
      rw [RenameRule.apply, if_pos hfound]
      change _ = rule.regex.substitute rule.replacement name
      cases rule.regex.substitute rule.replacement name <;> rfl

end StackQuery.Renamer
