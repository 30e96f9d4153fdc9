import StackQuery.Proofs.Settings.Range

/-!
# Regexes that break off a check

A check collects issues, and breaks off only where a regex has a number too large for its word. For settings this
is where a rename rule has such a pattern; whether it comes to that does not depend on the issues before it.
-/
namespace StackQuery.Settings

namespace Check

variable {β γ : Type}

/-- A check breaks off exactly in a case that does not depend on the issues so far. -/
def Breaks (c : Check β) (case : Prop) : Prop := ∀ issues, (∃ e, c.run issues = .error e) ↔ case

abbrev Total (c : Check β) : Prop := Breaks c False

theorem total_pure (v : β) : Total (pure v : Check β) := fun _ => ⟨nofun, nofun⟩

/-- A check whose first part never breaks off does so where the rest does, for all that the first part gives. -/
theorem Total.bind_of_gives {c : Check β} {f : β → Check γ} {good : β → Prop} {case : Prop} (hc : Total c)
    (hgood : Gives c good) (hf : ∀ v, good v → Breaks (f v) case) : Breaks (c >>= f) case := by
  intro issues
  rw [StateT.run_bind, exists_bind_error_iff, or_iff_right (hc issues).mp]
  constructor
  · rintro ⟨⟨v, after⟩, hrun, h⟩
    exact (hf v (hgood _ _ _ hrun) after).mp h
  · intro hcase
    cases hrun : c.run issues with
    | error e => exact ((hc issues).mp ⟨e, hrun⟩).elim
    | ok result => exact ⟨result, rfl, (hf result.1 (hgood _ _ _ hrun) result.2).mpr hcase⟩

theorem Total.bind {c : Check β} {f : β → Check γ} {case : Prop} (hc : Total c) (hf : ∀ v, Breaks (f v) case) :
    Breaks (c >>= f) case :=
  hc.bind_of_gives (gives_trivial c) fun v _ => hf v

theorem Breaks.bind {c : Check β} {f : β → Check γ} {first rest : Prop} (hc : Breaks c first)
    (hf : ∀ v, Breaks (f v) rest) : Breaks (c >>= f) (first ∨ rest) := by
  intro issues
  rw [StateT.run_bind, exists_bind_error_iff, hc issues]
  refine or_congr_right' fun hfirst => ?_
  constructor
  · rintro ⟨⟨v, after⟩, -, h⟩
    exact (hf v after).mp h
  · intro hrest
    cases hrun : c.run issues with
    | error e => exact (hfirst ((hc issues).mp ⟨e, hrun⟩)).elim
    | ok result => exact ⟨result, rfl, (hf result.1 result.2).mpr hrest⟩

theorem Breaks.before {c : Check β} {f : β → Check γ} {case : Prop} (hc : Breaks c case) (hf : ∀ v, Total (f v)) :
    Breaks (c >>= f) case := by
  intro issues
  rw [hc.bind hf issues, or_false]

theorem total_issue {α : Type} (place : List Step) (defect : Defect) : Total (issue place defect : Check (Option α)) :=
  fun _ => ⟨nofun, nofun⟩

theorem total_value {α : Type} (place : List Step) (result : Except Defect α) : Total (value place result) := by
  cases result with
  | ok a => exact total_pure _
  | error defect => exact total_issue _ _

theorem total_member {α : Type} (r : Record) (name : String) (fallback : α) (read : Raw → Except Defect α) :
    Total (member r name fallback read) := by
  rw [member]
  cases r.members.lookup name with
  | some v => exact total_value _ _
  | none => exact total_pure _

theorem total_required {α : Type} (r : Record) (name : String) (read : Raw → Except Defect α) :
    Total (required r name read) := by
  rw [required]
  cases r.members.lookup name with
  | some v => exact total_value _ _
  | none => exact total_issue _ _

theorem total_inner {α : Type} (r : Record) (name kind : String) (fallback : α) {check : Record → Check (Option α)}
    (hcheck : ∀ s, Total (check s)) : Total (inner r name kind fallback check) := by
  rw [Check.inner]
  cases r.members.lookup name with
  | none => exact total_pure _
  | some v =>
    cases v with
    | record members => exact hcheck _
    | null | bool | number | text | bytes | list | other => exact total_issue _ _

end Check

open Check

/-- A regex with a number too large for its word. -/
def Overflows [Text.CharNames] (pattern : String) : Prop := ∃ e, Regex.compile pattern = .error e ∧ e.isOverflow = true

theorem breaks_checkPattern [Text.CharNames] (place : List Step) (pattern : String) :
    Breaks (checkPattern place pattern) (Overflows pattern) := by
  rw [checkPattern, Overflows]
  cases hcompile : Regex.compile pattern with
  | ok r =>
    intro issues
    exact ⟨nofun, fun ⟨e, he, _⟩ => by cases he⟩
  | error e =>
    cases hoverflow : e.isOverflow with
    | true =>
      dsimp only
      rw [if_pos hoverflow]
      exact fun issues => ⟨fun _ => ⟨e, rfl, hoverflow⟩, fun _ => ⟨e, rfl⟩⟩
    | false =>
      dsimp only
      rw [if_neg (by simp [hoverflow])]
      refine fun issues => ⟨nofun, ?_⟩
      rintro ⟨e', he', hoverflow'⟩
      cases he'
      cases hoverflow.symm.trans hoverflow'

/-- A rule whose pattern is a text that overflows. -/
def OverflowingRule [Text.CharNames] (rule : List (String × Raw)) : Prop :=
  ∃ v pattern, rule.lookup "pattern" = some v ∧ v.readText = .ok pattern ∧ Overflows pattern

theorem gives_required {α : Type} (r : Record) (name : String) (read : Raw → Except Defect α) :
    Gives (required r name read) fun found => found = (r.members.lookup name).bind fun v => (read v).toOption := by
  rw [required]
  cases r.members.lookup name with
  | none => exact (gives_trivial _).bind fun _ _ => gives_pure rfl
  | some v =>
    change Gives (value _ (read v)) fun found => found = (read v).toOption
    cases read v with
    | ok a => exact gives_pure rfl
    | error defect => exact (gives_trivial _).bind fun _ _ => gives_pure rfl

theorem total_compileRule [Text.CharNames] (r : Record) (pattern : Option String) : Total (do
    let replacement ← required r "replacement" Raw.readText
    match pattern, replacement with
    | some pattern, some replacement =>
      match RenameRule.compile pattern replacement with
      | .ok _ => return some ⟨pattern, replacement⟩
      | .error e => issue r.place (.refused e.message)
    | _, _ => return none : Check (Option RulePair)) := by
  refine (total_required r _ _).bind fun replacement => ?_
  split
  · split
    · exact total_pure _
    · exact total_issue _ _
  · exact total_pure _

theorem breaks_checkRule [Text.CharNames] (r : Record) : Breaks (checkRule r) (OverflowingRule r.members) := by
  refine (total_required r _ _).bind_of_gives (gives_required r _ _) fun found hfound => ?_
  cases found with
  | none =>
    refine Breaks.before (fun issues => ⟨?_, ?_⟩) (total_compileRule r)
    · rintro ⟨e, he⟩
      cases he
    · rintro ⟨v, pattern, hv, hpattern, -⟩
      rw [hv, Option.bind_some, hpattern] at hfound
      cases hfound
  | some pattern =>
    obtain ⟨v, hv, hread⟩ := Option.bind_eq_some_iff.mp hfound.symm
    have hpattern : v.readText = .ok pattern := by
      cases h : v.readText with
      | error e =>
        rw [h] at hread
        cases hread
      | ok text =>
        rw [h] at hread
        exact congrArg Except.ok (Option.some.inj hread)
    refine Breaks.before (fun issues => ?_) (total_compileRule r)
    refine (breaks_checkPattern _ pattern issues).trans ⟨fun h => ⟨v, pattern, hv, hpattern, h⟩, ?_⟩
    rintro ⟨v', pattern', hv', hpattern', h⟩
    cases hv.symm.trans hv'
    cases hpattern.symm.trans hpattern'
    exact h

/-- Some rule of a list has a pattern that overflows. -/
def OverflowingRules [Text.CharNames] (items : List Raw) : Prop :=
  ∃ rule, Raw.record rule ∈ items ∧ OverflowingRule rule

theorem breaks_checkRules [Text.CharNames] (place : List Step) (items : List Raw) (number : Nat) :
    Breaks (checkRules place number items) (OverflowingRules items) := by
  induction items generalizing number with
  | nil =>
    refine fun issues => ⟨?_, ?_⟩
    · rintro ⟨e, he⟩
      cases he
    · rintro ⟨rule, hrule, -⟩
      cases hrule
  | cons item items ih =>
    have hitem : Breaks (record (place ++ [.item number]) "RenameRuleConfig" item checkRule)
        (∃ rule, item = .record rule ∧ OverflowingRule rule) := by
      cases item with
      | record rule =>
        refine fun issues => (breaks_checkRule ⟨_, rule⟩ issues).trans ⟨fun h => ⟨rule, rfl, h⟩, ?_⟩
        rintro ⟨rule', hrule, h⟩
        cases hrule
        exact h
      | null | bool | number | text | bytes | list | other =>
        refine fun issues => ⟨?_, ?_⟩
        · rintro ⟨e, he⟩
          cases he
        · rintro ⟨rule, hrule, -⟩
          cases hrule
    refine fun issues => Iff.trans ((hitem.bind fun rule => (ih (number + 1)).before fun rules => ?_) issues) ?_
    · split <;> exact total_pure _
    simp only [OverflowingRules, List.mem_cons, eq_comm (a := item)]
    constructor
    · rintro (⟨rule, hrule, h⟩ | ⟨rule, hrule, h⟩)
      · exact ⟨rule, .inl hrule, h⟩
      · exact ⟨rule, .inr hrule, h⟩
    · rintro ⟨rule, hrule | hrule, h⟩
      · exact .inl ⟨rule, hrule, h⟩
      · exact .inr ⟨rule, hrule, h⟩

/-- Some rename rule among members has a pattern that overflows. -/
def OverflowingMembers [Text.CharNames] (members : List (String × Raw)) : Prop :=
  ∃ items, members.lookup "rename" = some (.list items) ∧ OverflowingRules items

theorem breaks_checkRename [Text.CharNames] (r : Record) : Breaks (checkRename r) (OverflowingMembers r.members) := by
  have hnot (h : ∀ items, r.members.lookup "rename" ≠ some (.list items)) : ¬ OverflowingMembers r.members :=
    fun ⟨items, hitems, _⟩ => h items hitems
  rw [checkRename]
  cases hlookup : r.members.lookup "rename" with
  | none => exact fun issues => ⟨nofun, fun h => (hnot (by simp [hlookup]) h).elim⟩
  | some v =>
    cases v with
    | list items =>
      refine fun issues => (breaks_checkRules _ items 0 issues).trans ⟨fun h => ⟨items, hlookup, h⟩, ?_⟩
      rintro ⟨items', hitems', h⟩
      cases hlookup.symm.trans hitems'
      exact h
    | null | bool | number | text | bytes | record | other =>
      exact fun issues => ⟨nofun, fun h => (hnot (by simp [hlookup]) h).elim⟩

theorem total_checkLogFile (r : Record) : Total (checkLogFile r) := by
  refine (total_member r _ _ _).bind fun enabled => (total_member r _ _ _).bind fun path => ?_
  split <;> exact total_pure _

theorem total_checkLogging (r : Record) : Total (checkLogging r) := by
  refine (total_member r _ _ _).bind fun level => (total_member r _ _ _).bind fun format => ?_
  refine (total_inner r _ _ _ total_checkLogFile).bind fun file => ?_
  split <;> exact total_pure _

theorem total_checkReport (r : Record) : Total (checkReport r) := by
  refine (total_member r _ _ _).bind fun maxDepth => (total_member r _ _ _).bind fun minPercent => ?_
  refine (total_member r _ _ _).bind fun frequency => ?_
  split <;> exact total_pure _

theorem total_checkRuntime (r : Record) : Total (checkRuntime r) := by
  refine (total_member r _ _ _).bind fun workers => (total_member r _ _ _).bind fun chunkSize => ?_
  split <;> exact total_pure _

theorem total_checkExtras (members : List (String × Raw)) : Total (checkExtras members) := by
  induction members with
  | nil => exact total_pure _
  | cons m rest ih =>
    rw [checkExtras]
    split
    · exact (total_issue (α := Unit) _ _).bind fun _ => ih
    · exact ih

theorem breaks_checkSettings [Text.CharNames] (r : Record) :
    Breaks (checkSettings r) (OverflowingMembers r.members) := by
  refine (total_member r _ _ _).bind fun threshold => (total_member r _ _ _).bind fun innermostFirst => ?_
  refine (breaks_checkRename r).before fun rename => ?_
  refine (total_inner r _ _ _ total_checkLogging).bind fun logging => ?_
  refine (total_inner r _ _ _ total_checkReport).bind fun report => ?_
  refine (total_inner r _ _ _ total_checkRuntime).bind fun runtime => (total_checkExtras _).bind fun _ => ?_
  split <;> exact total_pure _

end StackQuery.Settings
