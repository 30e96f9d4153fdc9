import StackQuery.Proofs.Aggregation.Census
import StackQuery.Proofs.Rename.References

/-!
# When renaming fails

Building a rule checks which groups its template refers to, not the form of the template. So a rule that
was built fails on a name exactly if its regex is found there and its template has no reading; and
counting fails exactly at a frame where the first rule that applies is such a rule.
-/
namespace StackQuery

open Regex.Template (Reads)

namespace RenameRule

variable {rule : RenameRule} {pattern replacement : String} {name : Frame}

/-- The template of a rule has no reading. -/
def IllFormed (rule : RenameRule) : Prop := ¬ ∃ parts, Reads rule.replacement.toList parts

/-- A rule that was built from a regex that compiles. -/
def Built [Text.CharNames] (rule : RenameRule) : Prop := ∃ pattern replacement, compile pattern replacement = .ok rule

theorem compile_eq_ok_iff [Text.CharNames] :
    compile pattern replacement = .ok rule ↔
      ∃ regex, Regex.compile pattern = .ok regex ∧ ofRegex regex pattern replacement = .ok rule := by
  rw [compile, compileIn]
  cases Regex.compile pattern <;> simp

/-- The template of a rule that was built is accepted as soon as it has a reading. -/
theorem Built.exists_parse_iff [Text.CharNames] (h : rule.Built) :
    (∃ ps, Regex.Template.parse rule.regex.groups rule.regex.names rule.replacement.toList = .ok ps) ↔
      ¬ rule.IllFormed := by
  obtain ⟨pattern, replacement, hcompile⟩ := h
  obtain ⟨regex, hregex, hrule⟩ := compile_eq_ok_iff.mp hcompile
  obtain ⟨hcheck, rfl⟩ := ofRegex_eq_ok_iff.mp hrule
  rw [IllFormed, not_not]
  simp only [Regex.Template.parse_eq_ok_iff]
  constructor
  · rintro ⟨ps, parts, hreads, -⟩
    exact ⟨parts, hreads⟩
  · rintro ⟨parts, hreads⟩
    obtain ⟨ps, hdenotes⟩ := exists_denotes (Regex.named_of_compile hregex) hreads hcheck
    exact ⟨ps, parts, hreads, hdenotes⟩

theorem Built.apply_cases [Text.CharNames] (h : rule.Built) (name : Frame) :
    rule.regex.found name = false ∧ rule.apply name = .ok none ∨
      rule.regex.found name = true ∧ ¬ rule.IllFormed ∧ (∃ renamed, rule.apply name = .ok (some renamed)) ∨
        rule.regex.found name = true ∧ rule.IllFormed ∧ ∃ e, rule.apply name = .error e := by
  cases hfound : rule.regex.found name with
  | false => exact .inl ⟨rfl, apply_of_not_found hfound⟩
  | true =>
    refine .inr ?_
    have hparse := h.exists_parse_iff
    rw [apply, if_pos hfound, Regex.substitute]
    cases hps : Regex.Template.parse rule.regex.groups rule.regex.names rule.replacement.toList with
    | ok ps => exact .inl ⟨rfl, hparse.mp ⟨ps, hps⟩, _, rfl⟩
    | error e =>
      refine .inr ⟨rfl, ?_, e, rfl⟩
      by_contra hwell
      obtain ⟨ps, hok⟩ := hparse.mpr hwell
      cases hps.symm.trans hok

end RenameRule

namespace Renamer

variable {r : Renamer}

/-- The first of the rules whose regex is found in a name has a template without a reading. -/
def Trips (r : Renamer) (name : Frame) : Prop :=
  ∃ rule, r.rules.find? (fun rule => rule.regex.found name) = some rule ∧ rule.IllFormed

theorem built_of_ofPairsIn [Text.CharNames] {pairs : List (String × String)} {rules : List RenameRule}
    (h : (ofPairsIn (fun text (_ : Unit) => (Regex.compile text, ())) pairs ()).1 = .ok rules) :
    ∀ rule ∈ rules, rule.Built := by
  induction pairs generalizing rules with
  | nil =>
    cases h
    simp
  | cons pair rest ih =>
    obtain ⟨pattern, replacement⟩ := pair
    rw [ofPairsIn] at h
    split at h
    · cases h
    · next rule _ hrule =>
      split at h
      · cases h
      · next others _ hothers =>
        cases h
        exact List.forall_mem_cons.mpr ⟨⟨pattern, replacement, congrArg Prod.fst hrule⟩,
          ih (congrArg Prod.fst hothers)⟩

theorem built_of_ofPairs [Text.CharNames] {pairs : List (String × String)} (h : ofPairs pairs = .ok r) :
    ∀ rule ∈ r.rules, rule.Built := by
  rw [ofPairs] at h
  cases hrules : (ofPairsIn (fun text (_ : Unit) => (Regex.compile text, ())) pairs ()).1 with
  | error e =>
    rw [hrules] at h
    cases h
  | ok rules =>
    rw [hrules] at h
    cases h
    exact built_of_ofPairsIn hrules

theorem exists_firstOf_iff [Text.CharNames] {rules : List RenameRule} (h : ∀ rule ∈ rules, rule.Built) (name : Frame) :
    (∃ renamed, firstOf rules name = .ok renamed) ↔
      ∀ rule, rules.find? (fun rule => rule.regex.found name) = some rule → ¬ rule.IllFormed := by
  induction rules with
  | nil => simp [firstOf]
  | cons rule rest ih =>
    obtain ⟨hrule, hrest⟩ := List.forall_mem_cons.mp h
    rw [firstOf]
    obtain ⟨hfound, happly⟩ | ⟨hfound, hwell, renamed, happly⟩ | ⟨hfound, hill, e, happly⟩ :=
      hrule.apply_cases name
    · simp only [happly, List.find?_cons, hfound]
      exact ih hrest
    · simp only [happly, List.find?_cons, hfound]
      refine iff_of_true ⟨renamed, rfl⟩ ?_
      rintro _ ⟨⟩
      exact hwell
    · simp only [happly, List.find?_cons, hfound]
      refine iff_of_false ?_ fun hall => hall rule rfl hill
      rintro ⟨_, ⟨⟩⟩

theorem exists_renameAll_iff [Text.CharNames] (h : ∀ rule ∈ r.rules, rule.Built) {frames : List Frame} :
    (∃ renamed, r.renameAll frames = .ok renamed) ↔ ∀ name ∈ frames, ¬ r.Trips name := by
  simp only [renameAll, exists_mapM_iff, rename, exists_firstOf_iff h, Trips, not_exists, not_and]

end Renamer

/-- Which rules fail although they were accepted. A rule that was built leaves a name alone in which its regex
is not found; else it gives a new name if its template has a reading, and fails if it has none. Counting with
an accepted query fails if and only if a sample holds a name for which the first rule that applies has a
template without a reading. -/
theorem accepted_rules_fail_iff_ill_formed [Text.CharNames] {σ : Type} (compile : Query.Compiler σ) (store : σ)
    (query : String) (p : Query.Pattern) (hp : (Query.parseIn compile query store).1 = .ok p)
    (pairs : List (String × String)) (r : Renamer) (hr : Renamer.ofPairs pairs = .ok r) :
    (∀ rule ∈ r.rules, ∀ name,
      rule.regex.found name = false ∧ rule.apply name = .ok none ∨
        rule.regex.found name = true ∧ ¬ rule.IllFormed ∧ (∃ renamed, rule.apply name = .ok (some renamed)) ∨
          rule.regex.found name = true ∧ rule.IllFormed ∧ ∃ e, rule.apply name = .error e) ∧
    ∀ (scope : Scope) (keepStacks innermostFirst : Bool) (samples : List Sample),
      (∃ e, (⟨p, r, scope, keepStacks, innermostFirst⟩ : Aggregator).count samples = .error e) ↔
        ∃ sample ∈ samples, ∃ name ∈ sample, r.Trips name := by
  have hbuilt := Renamer.built_of_ofPairs hr
  refine ⟨fun rule hrule => (hbuilt rule hrule).apply_cases, fun scope keepStacks innermostFirst samples => ?_⟩
  have hcounted := @Aggregator.exists_count_iff ⟨p, r, scope, keepStacks, innermostFirst⟩
    (Query.grounded_of_parseIn hp) samples
  simp only [Renamer.exists_renameAll_iff hbuilt] at hcounted
  have hfails : (∃ e, (⟨p, r, scope, keepStacks, innermostFirst⟩ : Aggregator).count samples = .error e) ↔
      ¬ ∃ c, (⟨p, r, scope, keepStacks, innermostFirst⟩ : Aggregator).count samples = .ok c := by
    cases (⟨p, r, scope, keepStacks, innermostFirst⟩ : Aggregator).count samples <;> simp
  rw [hfails, hcounted]
  push Not
  rfl

/-- A backslash before a letter without a meaning passes when the rule is built, and fails at the first name in
which the regex is found. -/
theorem accepted_rules_fail_iff_ill_formed_letter :
    let compile : String → Except Regex.CompileError (Frame → Bool) := fun text => .ok (· == text)
    let p : Query.Pattern := ⟨"\x7bb\x7d", .leaf "b" (· == "b")⟩
    ∃ rule : RenameRule, Query.parseWith compile "\x7bb\x7d" = .ok p ∧
      Renamer.ofPairs [("a", "\\q")] = .ok ⟨[rule]⟩ ∧ rule.IllFormed ∧ rule.apply "x" = .ok none ∧
      (∃ e, rule.apply "a" = .error e) ∧
      (∃ e, (⟨p, ⟨[rule]⟩, .all, false, false⟩ : Aggregator).count [["x", "b"], ["x", "a"]] = .error e) ∧
      ¬ ∃ e, (⟨p, ⟨[rule]⟩, .all, false, false⟩ : Aggregator).count [["x", "b"]] = .error e := by
  intro compile p
  have hp : Query.parseWith compile "\x7bb\x7d" = .ok p := by rfl
  obtain ⟨rule, hr, htemplate, ha, hb, hx⟩ : ∃ rule : RenameRule,
      Renamer.ofPairs [("a", "\\q")] = .ok ⟨[rule]⟩ ∧ rule.replacement.toList = ['\\', 'q'] ∧
        rule.regex.found "a" = true ∧ rule.regex.found "b" = false ∧ rule.regex.found "x" = false :=
    ⟨_, by rfl, by rfl, by rfl, by rfl, by rfl⟩
  have hill : rule.IllFormed := by
    rintro ⟨parts, hreads⟩
    rw [htemplate] at hreads
    cases hreads with
    | plain hc _ => exact hc rfl
    | escape hescape _ =>
      cases hescape with
      | control hcontrol => cases hcontrol
      | plain _ hletter _ => exact absurd hletter (by decide)
      | one hdigit _ _ => exact absurd hdigit (by decide)
  have htrips : (⟨[rule]⟩ : Renamer).Trips "a" := ⟨rule, List.find?_cons_of_pos ha, hill⟩
  obtain ⟨hrules, hcounts⟩ := accepted_rules_fail_iff_ill_formed _ () _ p hp _ _ hr
  refine ⟨rule, hp, hr, hill, RenameRule.apply_of_not_found hx, ?_, ?_, ?_⟩
  · obtain ⟨hfound, -⟩ | ⟨-, hwell, -⟩ | ⟨-, -, hfails⟩ := hrules rule List.mem_cons_self "a"
    · exact absurd (hfound.symm.trans ha) (by decide)
    · exact absurd hill hwell
    · exact hfails
  · exact (hcounts .all false false _).mpr ⟨["x", "a"], by simp, "a", by simp, htrips⟩
  · rw [hcounts .all false false]
    rintro ⟨sample, hsample, name, hname, other, hother, -⟩
    obtain rfl := List.mem_singleton.mp hsample
    have hfound := List.find?_some hother
    obtain rfl := List.mem_singleton.mp (List.mem_of_find?_eq_some hother)
    obtain rfl | rfl : name = "x" ∨ name = "b" := by simpa using hname
    · exact absurd (hx.symm.trans hfound) (by decide)
    · exact absurd (hb.symm.trans hfound) (by decide)

end StackQuery
