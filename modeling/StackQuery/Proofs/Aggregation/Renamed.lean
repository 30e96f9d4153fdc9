import StackQuery.Proofs.Aggregation.Pool

/-!
# Counting renamed samples

A renamer remembers names, from sample to sample and from pass to pass. What it remembers is never seen: a name
is given by the first rule that applies to it. So counting with rules is counting without them what the rules
make of the samples, in one process or in several.
-/
namespace StackQuery.Aggregator

variable {a : Aggregator}

def withoutRules (a : Aggregator) : Aggregator := { a with renamer := .identity }

/-- A sample that can be renamed adds what the renamed sample adds without rules. -/
theorem contributionOf_withoutRules {sample frames : Sample} (h : a.renamer.renameAll sample = .ok frames) :
    a.contributionOf sample = a.withoutRules.contributionOf frames := by
  have hkept : a.withoutRules.renamer.renameAll frames = .ok frames := Renamer.renameAll_of_no_rules rfl frames
  rw [contributionOf, contributionOf, h, hkept]
  rfl

theorem mapM_contributionOf_withoutRules {samples renamed : List Sample}
    (h : samples.mapM a.renamer.renameAll = .ok renamed) :
    samples.mapM a.contributionOf = renamed.mapM a.withoutRules.contributionOf := by
  induction mapM_eq_ok_iff.mp h with
  | nil => rfl
  | cons hsample hrest ih =>
    rw [List.mapM_cons, List.mapM_cons, contributionOf_withoutRules hsample, ih (mapM_eq_ok_iff.mpr hrest)]

theorem count_withoutRules {samples renamed : List Sample}
    (h : samples.mapM a.renamer.renameAll = .ok renamed) :
    a.count samples = a.withoutRules.count renamed := by
  rw [count_eq, count_eq, mapM_contributionOf_withoutRules h]
  rfl

theorem exists_renamed {samples : List Sample}
    (h : ∀ sample ∈ samples, ∀ name ∈ sample, ∃ renamed, a.renamer.byFirstRule name = .ok renamed) :
    ∃ renamed, samples.mapM a.renamer.renameAll = .ok renamed := by
  refine exists_mapM_iff.mpr fun sample hsample => exists_mapM_iff.mpr fun name hname => ?_
  rw [Renamer.rename_eq_byFirstRule]
  exact h sample hsample name hname

/-- What a renamer remembers is never seen. After any calls, failed ones among them, it gives to a name what a
fresh renamer gives, which the first rule that applies to the raw name makes of it, once; and to a sample the
names of its frames in order, or the failure of the first that fails. Counting gives the same whatever names it
starts with. Hence counting with rules, where no rule that applies fails, is counting the renamed samples
without rules: in either mode, and however the workers of a pool finish. Beyond the limits of the platform neither
counts. -/
theorem remembered_names_unseen (a : Aggregator) (calls : List Renamer.Call) :
    (∀ name, (a.renamer.renameIn name (a.renamer.memoAfter calls)).1 = (a.renamer.renameIn name .empty).1 ∧
      (a.renamer.renameIn name .empty).1 = a.renamer.byFirstRule name) ∧
    (∀ frames, (a.renamer.renameAllIn frames (a.renamer.memoAfter calls)).1 =
      frames.mapM a.renamer.byFirstRule) ∧
    (∀ samples counts,
      a.countFrom samples (a.renamer.memoAfter calls) counts = a.countFrom samples .empty counts) ∧
    ∀ samples : List Sample,
      (∀ sample ∈ samples, ∀ name ∈ sample, ∃ renamed, a.renamer.byFirstRule name = .ok renamed) →
      ∃ renamed, samples.mapM (fun sample => sample.mapM a.renamer.byFirstRule) = .ok renamed ∧
        a.count samples = a.withoutRules.count renamed ∧
        (∀ mode workers chunkSize,
          a.countIn mode workers chunkSize samples = a.withoutRules.countIn mode workers chunkSize renamed ∧
          (WithinLimits mode workers chunkSize → a.countIn mode workers chunkSize samples =
            (a.withoutRules.count renamed).mapError .sample)) ∧
        ∀ (workers chunkSize n : Nat) (first pool : Pool) (outcome : Except SampleError Counts),
          Pool.start workers chunkSize samples = .ok first →
          Pool.Run a (workers * chunksPerWorker) first n pool →
          pool.Ends a (workers * chunksPerWorker) outcome → outcome = a.withoutRules.count renamed := by
  have hsound := a.renamer.sound_memoAfter calls
  have hrename : a.renamer.rename = a.renamer.byFirstRule := funext a.renamer.rename_eq_byFirstRule
  refine ⟨fun name => ?_, fun frames => ?_, fun samples counts => ?_, fun samples hsamples => ?_⟩
  · have hfresh := (Renamer.renameIn_of_sound (Renamer.sound_empty a.renamer) name).1
    have hcalled := (Renamer.renameIn_of_sound hsound name).1
    exact ⟨hcalled.trans hfresh.symm, hfresh.trans (congrFun hrename name)⟩
  · rw [(Renamer.renameAllIn_of_sound hsound frames).1, Renamer.renameAll, hrename]
  · rw [a.countFrom_of_sound hsound, a.countFrom_of_sound (Renamer.sound_empty _)]
  · obtain ⟨renamed, hrenamed⟩ := exists_renamed hsamples
    have hcount := count_withoutRules hrenamed
    refine ⟨renamed, ?_, hcount, fun mode workers chunkSize => ?_, ?_⟩
    · rw [← hrename]
      exact hrenamed
    · refine ⟨by rw [countIn_eq, countIn_eq, hcount], fun hlimits => ?_⟩
      rw [← hcount]
      exact a.countIn_eq_count_iff.mpr hlimits
    · intro workers chunkSize n first pool outcome hstart hrun hends
      obtain ⟨-, rfl⟩ := Pool.start_eq_ok_iff.mp hstart
      rw [← hcount]
      exact a.eq_count_of_ends hrun hends

/-- One rule fails at "x", another makes "a" the empty name. After a call that renamed "a" and failed at "x",
the empty name is remembered, and counting gives what the renamed samples do. -/
theorem remembered_names_unseen_empty_name :
    ∃ r : Renamer, Renamer.ofPairs [("x", "\\q"), ("a", "")] = .ok r ∧
      (∃ e, (r.renameAllIn ["a", "x"] .empty).1 = .error e) ∧
      (r.memoAfter [.all ["a", "x"], .one "b"]).entries = [("a", ""), ("b", "b")] ∧
      (r.renameIn "a" (r.memoAfter [.all ["a", "x"], .one "b"])).1 = .ok "" ∧
      (⟨⟨".", .any⟩, r, .all, true, false⟩ : Aggregator).countIn .parallel 2 1 [["a", "b"], ["a", "a"]] =
        ((⟨⟨".", .any⟩, .identity, .all, true, false⟩ : Aggregator).count [["", "b"], ["", ""]]).mapError .sample := by
  obtain ⟨r, hr, hfails, hmemo, ha, hb⟩ : ∃ r : Renamer, Renamer.ofPairs [("x", "\\q"), ("a", "")] = .ok r ∧
      (∃ e, (r.renameAllIn ["a", "x"] .empty).1 = .error e) ∧
      (r.memoAfter [.all ["a", "x"], .one "b"]).entries = [("a", ""), ("b", "b")] ∧
      r.byFirstRule "a" = .ok "" ∧ r.byFirstRule "b" = .ok "b" :=
    ⟨_, by rfl, ⟨_, by rfl⟩, by rfl, by rfl, by rfl⟩
  obtain ⟨hone, -, -, hcounts⟩ := remembered_names_unseen ⟨⟨".", .any⟩, r, .all, true, false⟩
    [.all ["a", "x"], .one "b"]
  obtain ⟨renamed, hrenamed, -, hmodes, -⟩ := hcounts [["a", "b"], ["a", "a"]] fun sample hsample name hname => by
    obtain rfl | rfl : sample = ["a", "b"] ∨ sample = ["a", "a"] := by simpa using hsample
    · obtain rfl | rfl : name = "a" ∨ name = "b" := by simpa using hname
      · exact ⟨_, ha⟩
      · exact ⟨_, hb⟩
    · obtain rfl : name = "a" := by simpa using hname
      exact ⟨_, ha⟩
  obtain rfl : [["", "b"], ["", ""]] = renamed := by
    simpa [ha, hb, bind, Except.bind, pure, Except.pure] using hrenamed
  exact ⟨r, hr, hfails, hmemo, (hone "a").1.trans ((hone "a").2.trans ha),
    (hmodes .parallel 2 1).2 fun _ => by decide⟩

end StackQuery.Aggregator
