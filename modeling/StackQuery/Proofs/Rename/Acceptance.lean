import StackQuery.Proofs.Rename.Failure

/-!
# Which rules are built

A template is checked by a search that knows its references only by their looks. Where the template has
another meaning for what looks like a reference, a rule may be refused although the regex has every group
that its template refers to. All such places are listed here, and all ways in which the check ends with
something other than a rule or a refusal.
-/
namespace StackQuery

open Regex (isOctalDigit)
open Regex.Template (Escape Reads Part)

/-- A part refers to a group that a regex does not define. -/
def Regex.Lacks (regex : Regex) : Part → Prop
  | .text _ => False
  | .number number => regex.groups < number
  | .name name => regex.names.lookup (String.ofList name) = none

namespace RuleError

/-- The regex is ill formed, or it lacks a group. -/
def isRefusal : RuleError → Bool
  | .badRegex .. | .missingGroup .. | .unknownGroup .. => true
  | .badNumber .. | .tooManyDigits .. | .refused .. => false

/-- The regex is said to lack a group. -/
def isMissing : RuleError → Bool
  | .missingGroup .. | .unknownGroup .. => true
  | .badRegex .. | .badNumber .. | .tooManyDigits .. | .refused .. => false

end RuleError

namespace RenameRule

/-- The number that decimal digits of any script write. -/
def number (ds : List Char) : Nat := Numeral.ofDigits (ds.map Numeral.digitValue)

/-- A place where the check takes a template for something that it is not. What follows the backslash and the
part that it is are given. -/
inductive Misread (groups : Nat) : List Char → Part → Prop where
  /-- An octal code that begins with zero, taken for the number of a group. -/
  | zero {text code : List Char} (beyond : groups < number ('0' :: digitAt text)) :
    Misread groups ('0' :: text) (.text code)
  /-- An octal code of three digits, of which two are taken for the number of a group. -/
  | code {a b c : Char} {rest code : List Char} (ha : isOctalDigit a = true) (hb : isOctalDigit b = true)
    (hc : isOctalDigit c = true) (beyond : groups < number [a, b]) :
    Misread groups (a :: b :: c :: rest) (.text code)
  /-- An escaped digit outside ASCII, which stands for itself, taken for the number of a group. -/
  | digit {c : Char} {text code : List Char} (hc : Text.isDecimal c.toNat = true) (hascii : c.isDigit = false)
    (beyond : groups < number (c :: digitAt text)) : Misread groups (c :: text) (.text code)
  /-- A digit outside ASCII, taken for a part of the number before it. -/
  | longer {a d : Char} {rest : List Char} {n : Nat} (ha : a.isDigit = true)
    (hd : Text.isDecimal d.toNat = true) (hascii : d.isDigit = false) (beyond : groups < number [a, d]) :
    Misread groups (a :: d :: rest) (.number n)
  /-- A number in brackets that is not written in digits alone, taken for the name of a group. -/
  | index {name rest : List Char} {n : Nat} (hangle : '>' ∉ name) (hname : Text.isIdentifier name = false)
    (hdigits : name.all (fun c => Text.isDigit c.toNat) = false) :
    Misread groups ('g' :: '<' :: (name ++ '>' :: rest)) (.number n)

/-- A reading of a template all escapes of which are what the check takes them for. -/
inductive Plain (groups : Nat) : List Char → List Part → Prop where
  | done : Plain groups [] []
  | plain {c : Char} {rest : List Char} {parts : List Part} (hc : c ≠ '\\') (h : Plain groups rest parts) :
    Plain groups (c :: rest) (.text [c] :: parts)
  | escape {text rest : List Char} {part : Part} {parts : List Part} (hescape : Escape text part rest)
    (hread : ¬ Misread groups text part) (h : Plain groups rest parts) :
    Plain groups ('\\' :: text) (part :: parts)

variable {regex : Regex} {pattern replacement : String} {reference name text rest : List Char} {c : Char}
  {part : Part} {e : RuleError}

theorem all_isDigit_of_decimal {ds : List Char} (h : ∀ d ∈ ds, Text.isDecimal d.toNat = true) :
    ds.all (fun d => Text.isDigit d.toNat) = true :=
  List.all_eq_true.mpr fun d hd => Bool.or_eq_true_iff.mpr (.inl (h d hd))

theorem checkReference_of_digits (hdigits : reference.all (fun d => Text.isDigit d.toNat) = true) {n : Nat}
    (hn : Numeral.readInt reference = .ok (.ofNat n)) :
    checkReference regex pattern replacement reference =
      if regex.groups < n then
        .error (.missingGroup pattern replacement (String.ofList reference) regex.groups)
      else .ok () := by
  have hne : reference.isEmpty = false := by
    cases reference with
    | nil => cases hn
    | cons => rfl
  simp only [checkReference, hne, hdigits, hn]
  simp

theorem checkReference_of_not_digits (hdigits : reference.all (fun d => Text.isDigit d.toNat) = false) :
    checkReference regex pattern replacement reference =
      if (regex.names.lookup (String.ofList reference)).isNone then
        .error (.unknownGroup replacement (String.ofList reference))
      else .ok () := by
  simp only [checkReference, hdigits, Bool.and_false, Bool.false_eq_true, if_false]

/-- Decimal digits that follow a backslash pass if the regex has so many groups. -/
theorem checkReference_of_decimal (hc : Text.isDecimal c.toNat = true) (text : List Char) :
    checkReference regex pattern replacement (c :: digitAt text) =
      if regex.groups < number (c :: digitAt text) then
        .error (.missingGroup pattern replacement (String.ofList (c :: digitAt text)) regex.groups)
      else .ok () := by
  have hdecimal : ∀ d ∈ c :: digitAt text, Text.isDecimal d.toNat = true :=
    List.forall_mem_cons.mpr ⟨hc, fun _ => isDecimal_of_mem_digitAt⟩
  have hlength : (digitAt text).length ≤ 1 := List.length_take_le ..
  refine checkReference_of_digits (all_isDigit_of_decimal hdecimal) (Numeral.readInt_of_decimal hdecimal ?_)
  rw [List.length_cons, Numeral.digitLimit]
  omega

theorem Misread.fails (hnames : ∀ g ∈ regex.names, Text.isIdentifier g.1.toList = true ∧ g.2 ≤ regex.groups)
    (h : Misread regex.groups text part) :
    ∃ reference ∈ foundAt text, checkReference regex pattern replacement reference ≠ .ok () := by
  have hdecimal {c : Char} {text : List Char} (hc : Text.isDecimal c.toNat = true)
      (beyond : regex.groups < number (c :: digitAt text)) :
      ∃ reference ∈ foundAt (c :: text), checkReference regex pattern replacement reference ≠ .ok () :=
    ⟨_, foundAt_of_decimal hc text, by simp [checkReference_of_decimal hc, beyond]⟩
  cases h with
  | zero beyond => exact hdecimal (by decide) beyond
  | @code a b c rest _ ha hb _ beyond =>
    have hdigit := digitAt_cons (isDecimal_of_isDigit (Regex.Template.isDigit_of_isOctalDigit hb)) (c :: rest)
    refine hdecimal (isDecimal_of_isDigit (Regex.Template.isDigit_of_isOctalDigit ha)) ?_
    rwa [hdigit]
  | digit hc _ beyond => exact hdecimal hc beyond
  | longer ha hd _ beyond =>
    refine hdecimal (isDecimal_of_isDigit ha) ?_
    rwa [digitAt_cons hd]
  | @index name rest _ hangle hname hdigits =>
    refine ⟨name, foundAt_of_name hangle rest, ?_⟩
    have hlookup : regex.names.lookup (String.ofList name) = none := by
      by_contra hsome
      obtain ⟨k, hk⟩ := Option.ne_none_iff_exists'.mp hsome
      rw [(of_lookup hnames hk).1] at hname
      cases hname
    simp [checkReference_of_not_digits hdigits, hlookup]

/-- What does not pass refers to a group that the regex lacks, or is misread. -/
theorem lacks_or_misread (h : Escape (c :: text) part rest) (hfound : reference ∈ foundAt (c :: text))
    (he : checkReference regex pattern replacement reference = .error e) :
    e.isMissing = true ∧ (regex.Lacks part ∨ Misread regex.groups (c :: text) part) := by
  have hdecimal (hc : Text.isDecimal c.toNat = true) :
      e.isMissing = true ∧ regex.groups < number (c :: digitAt text) := by
    rw [foundAt_of_decimal hc] at hfound
    cases hfound
    rw [checkReference_of_decimal hc] at he
    split at he
    · next hbeyond =>
      cases he
      exact ⟨rfl, hbeyond⟩
    · cases he
  cases h with
  | control hcontrol =>
    obtain ⟨hc, hg⟩ := not_decimal_of_controlEscape? hcontrol
    rw [foundAt_of_not_decimal hc hg] at hfound
    cases hfound
  | plain hcontrol hletter hdigit =>
    by_cases hc : Text.isDecimal c.toNat = true
    · obtain ⟨hmissing, hbeyond⟩ := hdecimal hc
      exact ⟨hmissing, .inr (.digit hc hdigit hbeyond)⟩
    · have hg : c ≠ 'g' := by
        rintro rfl
        exact absurd hletter (by decide)
      rw [foundAt_of_not_decimal (by simpa using hc) hg] at hfound
      cases hfound
  | zero hds =>
    obtain ⟨hmissing, hbeyond⟩ := hdecimal (by decide)
    exact ⟨hmissing, .inr (.zero hbeyond)⟩
  | @code _ b d _ ha _ hb hd _ =>
    obtain ⟨hmissing, hbeyond⟩ := hdecimal (isDecimal_of_isDigit (Regex.Template.isDigit_of_isOctalDigit ha))
    rw [digitAt_cons (isDecimal_of_isDigit (Regex.Template.isDigit_of_isOctalDigit hb))] at hbeyond
    exact ⟨hmissing, .inr (.code ha hb hd hbeyond)⟩
  | one ha hzero hrest =>
    obtain ⟨hmissing, hbeyond⟩ := hdecimal (isDecimal_of_isDigit ha)
    refine ⟨hmissing, ?_⟩
    obtain hnone | ⟨d, more, rfl, hd⟩ := digitAt_eq_nil_or text
    · rw [hnone] at hbeyond
      refine .inl ?_
      simpa [Regex.Lacks, Regex.valueOf, number, Numeral.ofDigits, digitValue_of_isDigit ha] using hbeyond
    · rw [digitAt_cons hd] at hbeyond
      exact .inr (.longer ha hd (hrest d rfl) hbeyond)
  | @two _ b _ ha hzero hb hrest =>
    obtain ⟨hmissing, hbeyond⟩ := hdecimal (isDecimal_of_isDigit ha)
    rw [digitAt_cons (isDecimal_of_isDigit hb)] at hbeyond
    refine ⟨hmissing, .inl ?_⟩
    simpa [Regex.Lacks, Regex.valueOf, number, Numeral.ofDigits, digitValue_of_isDigit ha,
      digitValue_of_isDigit hb] using hbeyond
  | name hname =>
    have hangle := Regex.Template.not_mem_of_isIdentifier (d := '>') (by decide) (by decide) hname
    rw [foundAt_of_name hangle] at hfound
    cases hfound
    have hdigits : reference.all (fun d => Text.isDigit d.toNat) = false := by
      simpa using not_all_isDigit_of_isIdentifier hname
    rw [checkReference_of_not_digits hdigits] at he
    split at he
    · next hlookup =>
      cases he
      exact ⟨rfl, .inl (Option.isNone_iff_eq_none.mp hlookup)⟩
    · cases he
  | index hname hnumber _ =>
    have hangle := Regex.Template.not_mem_of_readInt (d := '>') (by decide) hnumber
    rw [foundAt_of_name hangle] at hfound
    cases hfound
    cases hdigits : reference.all fun d => Text.isDigit d.toNat with
    | true =>
      rw [checkReference_of_digits hdigits hnumber] at he
      split at he
      · next hbeyond =>
        cases he
        exact ⟨rfl, .inl hbeyond⟩
      · cases he
    | false =>
      rw [checkReference_of_not_digits hdigits] at he
      split at he
      · cases he
        exact ⟨rfl, .inr (.index hangle hname hdigits)⟩
      · cases he

theorem not_lacks_of_denotes {piece : Regex.Piece} (h : part.Denotes regex.groups regex.names piece) :
    ¬ regex.Lacks part := by
  cases h with
  | text => exact id
  | number hle => exact Nat.not_lt.mpr hle
  | name hlookup _ =>
    intro hlacks
    cases hlookup.symm.trans hlacks

/-- The references of a template pass exactly if the regex has the groups that the template refers to, and the
check reads every escape as it is. -/
theorem passes_iff (pattern replacement : String)
    (hnames : ∀ g ∈ regex.names, Text.isIdentifier g.1.toList = true ∧ g.2 ≤ regex.groups)
    {parts : List Part} (hreads : Reads text parts) :
    (∀ reference ∈ references text, checkReference regex pattern replacement reference = .ok ()) ↔
      (∀ part ∈ parts, ¬ regex.Lacks part) ∧ Plain regex.groups text parts := by
  constructor
  · intro hcheck
    induction hreads with
    | done => exact ⟨nofun, .done⟩
    | plain hc _ ih =>
      rw [references_cons hc] at hcheck
      obtain ⟨hparts, hplain⟩ := ih hcheck
      exact ⟨List.forall_mem_cons.mpr ⟨id, hparts⟩, .plain hc hplain⟩
    | @escape text rest part parts hescape _ ih =>
      cases text with
      | nil => cases hescape
      | cons c text =>
        simp only [references_escape hescape, List.mem_append, Option.mem_toList] at hcheck
        obtain ⟨hparts, hplain⟩ := ih fun reference h => hcheck reference (.inr h)
        obtain ⟨piece, hpiece⟩ := denotes_of_covers hnames (covers_foundAt hescape) fun reference h =>
          hcheck reference (.inl h)
        have hread : ¬ Misread regex.groups (c :: text) part := fun hmisread => by
          obtain ⟨reference, hfound, hfails⟩ := hmisread.fails hnames
          exact hfails (hcheck reference (.inl hfound))
        exact ⟨List.forall_mem_cons.mpr ⟨not_lacks_of_denotes hpiece, hparts⟩, .escape hescape hread hplain⟩
  · rintro ⟨hparts, hplain⟩
    clear hreads
    induction hplain with
    | done => nofun
    | plain hc _ ih =>
      rw [references_cons hc]
      exact ih (List.forall_mem_cons.mp hparts).2
    | @escape text _ _ _ hescape hread _ ih =>
      obtain ⟨hpart, hparts⟩ := List.forall_mem_cons.mp hparts
      cases text with
      | nil => cases hescape
      | cons c text =>
        intro reference hmem
        rw [references_escape hescape, List.mem_append, Option.mem_toList] at hmem
        refine hmem.elim (fun hfound => ?_) (ih hparts reference)
        cases hcheck : checkReference regex pattern replacement reference with
        | ok => rfl
        | error e => exact absurd (lacks_or_misread hescape hfound hcheck).2 (not_or.mpr ⟨hpart, hread⟩)

/-- A template with a reading is refused for a group that is said to be missing, and for nothing else. -/
theorem isMissing_of_reads {parts : List Part} (hreads : Reads text parts) (hmem : reference ∈ references text)
    (he : checkReference regex pattern replacement reference = .error e) : e.isMissing = true := by
  induction hreads with
  | done => cases hmem
  | plain hc _ ih =>
    rw [references_cons hc] at hmem
    exact ih hmem
  | @escape text _ _ _ hescape _ ih =>
    cases text with
    | nil => cases hescape
    | cons c text =>
      rw [references_escape hescape, List.mem_append, Option.mem_toList] at hmem
      exact hmem.elim (fun hfound => (lacks_or_misread hescape hfound he).1) ih

/-- A rule is refused for the first of its references that does not pass. -/
theorem ofRegex_eq_error_iff :
    ofRegex regex pattern replacement = .error e ↔
      ∃ before reference after, references replacement.toList = before ++ reference :: after ∧
        (∀ r ∈ before, checkReference regex pattern replacement r = .ok ()) ∧
        checkReference regex pattern replacement reference = .error e := by
  rw [ofRegex, bind_eq_error_iff, ← forIn_eq_error_iff]
  simp [pure, Except.pure]

/-- Digits that are no numeral are the only references that end the check otherwise. -/
theorem exists_not_refusal_iff :
    (∃ e, checkReference regex pattern replacement reference = .error e ∧ e.isRefusal = false) ↔
      reference ≠ [] ∧ (∀ c ∈ reference, Text.isDigit c.toNat = true) ∧ ∀ n, Numeral.readInt reference ≠ .ok n := by
  have hdigits : (!reference.isEmpty && reference.all fun c => Text.isDigit c.toNat) = true ↔
      reference ≠ [] ∧ ∀ c ∈ reference, Text.isDigit c.toNat = true := by
    simp
  rw [← and_assoc, ← hdigits, checkReference]
  split
  · next hall =>
    cases hread : Numeral.readInt reference with
    | ok n =>
      dsimp only
      split <;> simp [RuleError.isRefusal]
    | error refusal => cases refusal <;> simp [hall, RuleError.isRefusal]
  · next hall =>
    split <;> simp [hall, RuleError.isRefusal]

/-- When a rule is built. With a regex that compiles and a template that has a reading, a rule is built exactly if
the regex defines every group that the reading refers to and no escape is misread; else it is refused for a group
that is said to be missing. Of any texts at all, something other than a rule or a refusal comes exactly if the
regex is refused for a reason other than its form, or if the first reference that does not pass is all digits and
yet no numeral. -/
theorem rule_built_iff_groups_defined [Text.CharNames] (pattern replacement : String) :
    (∀ regex parts, Regex.compile pattern = .ok regex → Reads replacement.toList parts →
      ((∀ part ∈ parts, ¬ regex.Lacks part) ∧ Plain regex.groups replacement.toList parts) ∧
          compile pattern replacement = .ok ⟨regex, replacement⟩ ∨
        ¬ ((∀ part ∈ parts, ¬ regex.Lacks part) ∧ Plain regex.groups replacement.toList parts) ∧
          ∃ e, compile pattern replacement = .error e ∧ e.isMissing = true) ∧
    ((∃ e, compile pattern replacement = .error e ∧ e.isRefusal = false) ↔
      (∃ e, Regex.compile pattern = .error e ∧ ∀ fault, e ≠ .ill fault) ∨
        ∃ regex, Regex.compile pattern = .ok regex ∧
          ∃ before reference after, references replacement.toList = before ++ reference :: after ∧
            (∀ r ∈ before, checkReference regex pattern replacement r = .ok ()) ∧
            reference ≠ [] ∧ (∀ c ∈ reference, Text.isDigit c.toNat = true) ∧
              ∀ n, Numeral.readInt reference ≠ .ok n) := by
  have hok {regex : Regex} (h : Regex.compile pattern = .ok regex) :
      compile pattern replacement = ofRegex regex pattern replacement := by
    rw [compile, compileIn, h]
  constructor
  · intro regex parts hregex hreads
    rw [hok hregex, ← passes_iff pattern replacement (Regex.named_of_compile hregex) hreads]
    cases hrule : ofRegex regex pattern replacement with
    | ok rule =>
      obtain ⟨hpasses, rfl⟩ := ofRegex_eq_ok_iff.mp hrule
      exact .inl ⟨hpasses, rfl⟩
    | error e =>
      obtain ⟨before, reference, after, heq, -, he⟩ := ofRegex_eq_error_iff.mp hrule
      have hmem : reference ∈ references replacement.toList := by simp [heq]
      refine .inr ⟨fun hpasses => ?_, e, rfl, isMissing_of_reads hreads hmem he⟩
      cases (hpasses reference hmem).symm.trans he
  · cases hregex : Regex.compile pattern with
    | error e =>
      rw [compile, compileIn, hregex]
      cases e <;> simp [RuleError.ofCompile, RuleError.isRefusal]
    | ok regex =>
      simp only [hok hregex, ofRegex_eq_error_iff, reduceCtorEq, false_and, exists_false, false_or,
        Except.ok.injEq, exists_eq_left']
      constructor
      · rintro ⟨e, ⟨before, reference, after, heq, hbefore, he⟩, hrefusal⟩
        exact ⟨before, reference, after, heq, hbefore, exists_not_refusal_iff.mp ⟨e, he, hrefusal⟩⟩
      · rintro ⟨before, reference, after, heq, hbefore, hdigits⟩
        obtain ⟨e, he, hrefusal⟩ := exists_not_refusal_iff.mpr hdigits
        exact ⟨e, ⟨before, reference, after, heq, hbefore, he⟩, hrefusal⟩

/-- A template that stands for a capital letter, by its octal code, is refused for want of ten groups; an escaped
zero is accepted; and a superscript in brackets ends the check without a refusal. -/
theorem rule_built_iff_groups_defined_octal :
    ∃ regex, Regex.compile "a" = .ok regex ∧
      (Reads "\\101".toList [.text ['A']] ∧ (∀ part ∈ [Part.text ['A']], ¬ regex.Lacks part) ∧
        ∃ e, compile "a" "\\101" = .error e ∧ e.isMissing = true) ∧
      (∃ parts, Reads "\\0".toList parts ∧ compile "a" "\\0" = .ok ⟨regex, "\\0"⟩) ∧
      ∃ e, compile "a" "\\g<²>" = .error e ∧ e.isRefusal = false := by
  obtain ⟨regex, hregex, hgroups⟩ : ∃ regex, Regex.compile "a" = .ok regex ∧ regex.groups = 0 := ⟨_, by rfl, by rfl⟩
  refine ⟨regex, hregex, ⟨?_, by simp [Regex.Lacks], ?_⟩, ?_, ?_⟩
  · exact .escape (.code (by decide) (by decide) (by decide) (by decide) (by decide)) .done
  · obtain ⟨⟨-, hplain⟩, -⟩ | ⟨-, hrefused⟩ := (rule_built_iff_groups_defined "a" "\\101").1 regex [.text ['A']] hregex
      (.escape (.code (by decide) (by decide) (by decide) (by decide) (by decide)) .done)
    · cases hplain with
      | escape _ hread _ =>
        exact absurd (.code (by decide) (by decide) (by decide) (by rw [hgroups]; decide)) hread
    · exact hrefused
  · have hreads : Reads "\\0".toList [.text [Char.ofNat 0]] := .escape (.zero (.stop (by simp))) .done
    have hread : ¬ Misread regex.groups ['0'] (.text [Char.ofNat 0]) := by
      rintro (hbeyond | _ | ⟨-, hascii, -⟩)
      · rw [hgroups] at hbeyond
        exact absurd hbeyond (by decide)
      · exact absurd hascii (by decide)
    obtain ⟨-, hbuilt⟩ | ⟨hnot, -⟩ := (rule_built_iff_groups_defined "a" "\\0").1 regex _ hregex hreads
    · exact ⟨_, hreads, hbuilt⟩
    · exact absurd ⟨by simp [Regex.Lacks], .escape (.zero (.stop (by simp))) hread .done⟩ hnot
  · refine (rule_built_iff_groups_defined "a" "\\g<²>").2.mpr (.inr ⟨regex, hregex, [], ['²'], [], ?_⟩)
    have hdigit : Text.isDigit 178 = true := by decide +kernel
    refine ⟨by decide +kernel, nofun, by decide, by simpa using hdigit, fun n => ?_⟩
    have hread : Numeral.readInt ['²'] = .error .malformed := by decide +kernel
    rw [hread]
    nofun

end RenameRule

end StackQuery
