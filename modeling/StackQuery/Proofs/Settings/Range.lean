import StackQuery.Proofs.Traversal
import StackQuery.Report.Leaves
import StackQuery.Settings.Standard

/-!
# The ranges of settings

Where settings are checked as they are made, the numbers of all settings that are loaded are in range. It is so
with the standard loader: what a check gives was read by a reader that bounds it, or is a default.
-/
namespace StackQuery.Settings

structure InRange (s : Settings) : Prop where
  threshold : 1 ≤ s.threshold
  maxDepth : ∀ depth ∈ s.report.maxDepth, 1 ≤ depth
  minPercent : Report.isPercentage (.float s.report.minPercent) = true
  frequency : ∀ hertz ∈ s.report.frequency, (Number.int 0).lt (.float hertz) = true
  workers : 1 ≤ s.runtime.workers ∧ s.runtime.workers ≤ maxWorkers
  chunkSize : 1 ≤ s.runtime.chunkSize

theorem inRange_default : InRange default where
  threshold := by decide
  maxDepth := nofun
  minPercent := by decide +kernel
  frequency := nofun
  workers := by decide
  chunkSize := by decide

namespace Raw

theorem readBounded_eq_ok {least : Int} {greatest : Option Int} {v : Raw} {z : Int}
    (h : v.readBounded least greatest = .ok z) : least ≤ z ∧ ∀ g ∈ greatest, z ≤ g := by
  obtain ⟨n, -, h⟩ := bind_eq_ok_iff.mp h
  cases greatest with
  | none =>
    change (if n < least then (.error (.atLeast least) : Except Defect Int) else .ok n) = .ok z at h
    split at h
    · cases h
    · next hn =>
      cases h
      exact ⟨Int.not_lt.mp hn, nofun⟩
  | some g =>
    change (if g < n then (.error (.atMost g) : Except Defect Int)
      else if n < least then .error (.atLeast least) else .ok n) = .ok z at h
    split at h
    · cases h
    · next hg =>
      split at h
      · cases h
      · next hn =>
        cases h
        exact ⟨Int.not_lt.mp hn, fun g' hg' => Option.some.inj hg' ▸ Int.not_lt.mp hg⟩

theorem readOptional_eq_ok {α : Type} {read : Raw → Except Defect α} {good : α → Prop}
    (hread : ∀ v a, read v = .ok a → good a) {v : Raw} {found : Option α} (h : readOptional read v = .ok found) :
    ∀ a ∈ found, good a := by
  rintro a rfl
  have hread' : ∀ w, (read w).map some = .ok (some a) → good a := by
    intro w hw
    cases hr : read w with
    | error e =>
      rw [hr] at hw
      cases hw
    | ok b =>
      rw [hr] at hw
      cases hw
      exact hread w a hr
  cases v with
  | null => cases h
  | bool | number | text | bytes | list | record | other => exact hread' _ h

theorem readPercentage_eq_ok {v : Raw} {x : Binary64} (h : v.readPercentage = .ok x) :
    Report.isPercentage (.float x) = true := by
  obtain ⟨y, -, h⟩ := bind_eq_ok_iff.mp h
  change (if !(Number.float y).le (.int 100) then (.error (.atMost 100) : Except Defect Binary64)
    else if !(Number.int 0).le (.float y) then .error (.atLeast 0) else .ok y) = .ok x at h
  split at h
  · cases h
  · next hgreatest =>
    split at h
    · cases h
    · next hleast =>
      cases h
      rw [Report.isPercentage, Bool.and_eq_true]
      exact ⟨by simpa using hleast, by simpa using hgreatest⟩

theorem readFrequency_eq_ok {v : Raw} {x : Binary64} (h : v.readFrequency = .ok x) :
    (Number.int 0).lt (.float x) = true := by
  obtain ⟨y, -, h⟩ := bind_eq_ok_iff.mp h
  change (if !(Number.int 0).lt (.float y) then (.error (.above 0) : Except Defect Binary64) else .ok y) = .ok x at h
  split at h
  · cases h
  · next hpositive =>
    cases h
    simpa using hpositive

end Raw

namespace Check

variable {α β : Type}

/-- All that a check gives is of a kind. -/
def Gives (c : Check β) (good : β → Prop) : Prop := ∀ issues v after, c.run issues = .ok (v, after) → good v

/-- The value of a check is of a kind, if there is one. -/
abbrev Yields (c : Check (Option α)) (good : α → Prop) : Prop := Gives c fun found => ∀ a ∈ found, good a

theorem gives_pure {good : β → Prop} {v : β} (h : good v) : Gives (pure v) good := by
  intro issues w after hw
  cases hw
  exact h

theorem gives_trivial (c : Check β) : Gives c fun _ => True := fun _ _ _ _ => trivial

theorem Gives.bind {γ : Type} {c : Check β} {f : β → Check γ} {good : β → Prop} {last : γ → Prop} (hc : Gives c good)
    (hf : ∀ v, good v → Gives (f v) last) : Gives (c >>= f) last := by
  intro issues w after hw
  rw [StateT.run_bind] at hw
  obtain ⟨⟨v, between⟩, hv, hw⟩ := bind_eq_ok_iff.mp hw
  exact hf v (hc _ _ _ hv) _ _ _ hw

variable {good : α → Prop}

theorem yields_none : Yields (pure none : Check (Option α)) good := gives_pure nofun

theorem yields_some {a : α} (h : good a) : Yields (pure (some a)) good :=
  gives_pure fun _ ha => Option.some.inj ha ▸ h

theorem yields_issue (place : List Step) (defect : Defect) : Yields (issue place defect : Check (Option α)) good :=
  (gives_trivial _).bind fun _ _ => yields_none

theorem yields_value (place : List Step) {result : Except Defect α} (h : ∀ a, result = .ok a → good a) :
    Yields (value place result) good := by
  cases result with
  | ok a => exact yields_some (h a rfl)
  | error defect => exact yields_issue place defect

theorem yields_member (r : Record) (name : String) {fallback : α} {read : Raw → Except Defect α} (h : good fallback)
    (hread : ∀ v a, read v = .ok a → good a) : Yields (member r name fallback read) good := by
  rw [member]
  cases r.members.lookup name with
  | some v => exact yields_value _ (hread v)
  | none => exact yields_some h

theorem yields_inner (r : Record) (name kind : String) {fallback : α} {check : Record → Check (Option α)}
    (h : good fallback) (hcheck : ∀ s, Yields (check s) good) : Yields (inner r name kind fallback check) good := by
  rw [inner]
  cases r.members.lookup name with
  | none => exact yields_some h
  | some v =>
    cases v with
    | record members => exact hcheck _
    | null | bool | number | text | bytes | list | other => exact yields_issue _ _

end Check

open Check

theorem yields_checkReport (r : Record) :
    Yields (checkReport r) fun limits => (∀ depth ∈ limits.maxDepth, 1 ≤ depth) ∧
      Report.isPercentage (.float limits.minPercent) = true ∧
      ∀ hertz ∈ limits.frequency, (Number.int 0).lt (.float hertz) = true := by
  have hmaxDepth : Yields (member r "max_depth" ReportLimits.default.maxDepth
      (Raw.readOptional (Raw.readBounded 1 none))) fun found => ∀ depth ∈ found, 1 ≤ depth :=
    yields_member r _ inRange_default.maxDepth fun v found hv =>
      Raw.readOptional_eq_ok (fun v z hz => (Raw.readBounded_eq_ok hz).1) hv
  have hminPercent : Yields (member r "min_percent" ReportLimits.default.minPercent Raw.readPercentage)
      fun x => Report.isPercentage (.float x) = true :=
    yields_member r _ inRange_default.minPercent fun v x hx => Raw.readPercentage_eq_ok hx
  have hfrequency : Yields (member r "frequency" ReportLimits.default.frequency
      (Raw.readOptional Raw.readFrequency)) fun found => ∀ hertz ∈ found, (Number.int 0).lt (.float hertz) = true :=
    yields_member r _ inRange_default.frequency fun v found hv =>
      Raw.readOptional_eq_ok (fun v x hx => Raw.readFrequency_eq_ok hx) hv
  refine hmaxDepth.bind fun maxDepth hdepth => hminPercent.bind fun minPercent hpercent => ?_
  refine hfrequency.bind fun frequency hhertz => ?_
  split
  · exact yields_some ⟨hdepth _ rfl, hpercent _ rfl, hhertz _ rfl⟩
  · exact yields_none

theorem yields_checkRuntime (r : Record) :
    Yields (checkRuntime r) fun runtime =>
      (1 ≤ runtime.workers ∧ runtime.workers ≤ maxWorkers) ∧ 1 ≤ runtime.chunkSize := by
  have hworkers : Yields (member r "workers" Runtime.default.workers (Raw.readBounded 1 (some maxWorkers)))
      fun n => 1 ≤ n ∧ n ≤ maxWorkers :=
    yields_member r _ inRange_default.workers fun v n hn =>
      (Raw.readBounded_eq_ok hn).imp id fun hgreatest => hgreatest _ rfl
  have hchunkSize : Yields (member r "chunk_size" Runtime.default.chunkSize (Raw.readBounded 1 none))
      fun n => 1 ≤ n :=
    yields_member r _ inRange_default.chunkSize fun v n hn => (Raw.readBounded_eq_ok hn).1
  refine hworkers.bind fun workers hw => hchunkSize.bind fun chunkSize hc => ?_
  split
  · exact yields_some ⟨hw _ rfl, hc _ rfl⟩
  · exact yields_none

theorem yields_checkSettings [Text.CharNames] (r : Record) : Yields (checkSettings r) InRange := by
  have hthreshold : Yields (member r "threshold" default.threshold (Raw.readBounded 1 none)) fun n => 1 ≤ n :=
    yields_member r _ inRange_default.threshold fun v n hn => (Raw.readBounded_eq_ok hn).1
  have hreport := yields_inner r "report" "ReportConfig"
    ⟨inRange_default.maxDepth, inRange_default.minPercent, inRange_default.frequency⟩ yields_checkReport
  have hruntime := yields_inner r "runtime" "RuntimeConfig"
    ⟨inRange_default.workers, inRange_default.chunkSize⟩ yields_checkRuntime
  refine hthreshold.bind fun threshold ht => (gives_trivial _).bind fun innermostFirst _ => ?_
  refine (gives_trivial _).bind fun rename _ => (gives_trivial _).bind fun logging _ => ?_
  refine hreport.bind fun report hlimits => hruntime.bind fun runtime hcount => (gives_trivial _).bind fun _ _ => ?_
  split
  · obtain ⟨hdepth, hpercent, hhertz⟩ := hlimits _ rfl
    obtain ⟨hworkers, hchunkSize⟩ := hcount _ rfl
    exact yields_some ⟨ht _ rfl, hdepth, hpercent, hhertz, hworkers, hchunkSize⟩
  · exact yields_none

theorem inRange_of_runCheck [Text.CharNames] {members : List (String × Raw)} {s : Settings}
    (h : runCheck checkSettings members = .ok s) : InRange s := by
  unfold runCheck at h
  split at h
  · cases h
  · next a hrun =>
    cases h
    exact yields_checkSettings _ _ _ _ hrun _ rfl
  · cases h

theorem inRange_of_settle [Text.CharNames] {env : Environment} {members : List (String × Raw)} {s : Settings}
    (h : settle env members = .ok s) : InRange s := by
  obtain ⟨below, -, h⟩ := bind_eq_ok_iff.mp h
  exact inRange_of_runCheck (mapError_eq_ok_iff.mp h)

namespace Loader

/-- All settings that are made have their numbers in range. -/
def Bounded (l : Loader) : Prop := ∀ env members s, l.make env members = .ok s → s.InRange

theorem bounded_standard [Text.CharNames] : standard.Bounded := by
  intro env members s h
  obtain ⟨own, -, h⟩ := bind_eq_ok_iff.mp h
  exact inRange_of_settle h

variable {l : Loader} {env : Environment} {s : Settings}

theorem Bounded.inRange_of_ofEnvironment (hl : l.Bounded) (h : l.ofEnvironment env = .ok s) : s.InRange :=
  hl _ _ _ (mapError_eq_ok_iff.mp h)

theorem Bounded.inRange_of_load (hl : l.Bounded) {tree : Files.Tree} {path : Files.Path}
    (h : l.load tree env path = .ok s) : s.InRange := by
  obtain ⟨there, -, h⟩ := bind_eq_ok_iff.mp h
  split at h
  · cases h
  · obtain ⟨content, -, h⟩ := bind_eq_ok_iff.mp h
    obtain ⟨text, -, h⟩ := bind_eq_ok_iff.mp h
    obtain ⟨replaced, -, h⟩ := bind_eq_ok_iff.mp h
    obtain ⟨value, -, h⟩ := bind_eq_ok_iff.mp h
    obtain ⟨members, -, h⟩ := bind_eq_ok_iff.mp h
    exact hl _ _ _ (mapError_eq_ok_iff.mp h)

end Loader

end StackQuery.Settings
