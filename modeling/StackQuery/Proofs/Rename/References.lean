import StackQuery.Proofs.Regex.GroupNames
import StackQuery.Proofs.Regex.TemplateGrammar
import StackQuery.Rename.Rule

/-!
# References that are checked

When a rule is built, the references of its template are found by a search of their own. On a template
that has a reading this search finds every reference of the reading, though it may take one more digit
for part of a number. So if all references that are found pass, the regex has every group that the
reading refers to.
-/
namespace StackQuery.RenameRule

open Regex.Template (Escape Reads Part)

variable {text rest plain name : List Char} {c : Char} {part : Part}

theorem referencesAfter_eq (n : Nat) (text : List Char) : referencesAfter n text = references (text.drop n) := by
  induction n generalizing text with
  | zero => rw [List.drop_zero, references]
  | succ n ih =>
    cases text with
    | nil => rfl
    | cons c text => rw [referencesAfter, ih, List.drop_succ_cons]

theorem references_cons (hc : c ≠ '\\') (text : List Char) : references (c :: text) = references text := by
  rw [references, referencesAfter, if_neg (by simpa using hc), references]

theorem references_append (h : '\\' ∉ plain) (rest : List Char) :
    references (plain ++ rest) = references rest := by
  induction plain with
  | nil => rfl
  | cons c plain ih =>
    obtain ⟨hc, hplain⟩ := not_or.mp (mt List.mem_cons.mpr h)
    rw [List.cons_append, references_cons (Ne.symm hc), ih hplain]

theorem references_of_none (h : referenceAt? text = none) : references ('\\' :: text) = references text := by
  rw [references, referencesAfter, if_pos (beq_self_eq_true _), h, references]

theorem references_of_some {reference : Option (List Char)} {length : Nat}
    (h : referenceAt? text = some (reference, length)) :
    references ('\\' :: text) = reference.toList ++ references (text.drop length) := by
  rw [references, referencesAfter, if_pos (beq_self_eq_true _), h, ← referencesAfter_eq]

/-- An escaped character that is neither a digit nor opens a name is no reference. -/
theorem references_of_not_decimal (hc : Text.isDecimal c.toNat = false) (hg : c ≠ 'g') (text : List Char) :
    references ('\\' :: c :: text) = references text := by
  by_cases hback : c = '\\'
  · subst hback
    have hat : referenceAt? ('\\' :: text) = some (none, 1) := rfl
    exact references_of_some hat
  · have hnone : referenceAt? (c :: text) = none := by
      unfold referenceAt?
      split <;> simp_all
    rw [references_of_none hnone, references_cons hback]

/-- The decimal digit at the head of a text, if there is one. -/
def digitAt (text : List Char) : List Char := (text.takeWhile fun d => Text.isDecimal d.toNat).take 1

theorem referenceAt?_of_decimal (hc : Text.isDecimal c.toNat = true) (text : List Char) :
    referenceAt? (c :: text) = some (some (c :: digitAt text), (digitAt text).length + 1) := by
  have hback : c ≠ '\\' := by
    rintro rfl
    exact absurd hc (by decide)
  have hg : c ≠ 'g' := by
    rintro rfl
    exact absurd hc (by decide)
  unfold referenceAt?
  split
  · next heq => exact absurd (List.cons.inj heq).1 hback
  · next heq => exact absurd (List.cons.inj heq).1 hg
  · next heq =>
    cases heq
    rw [if_pos hc, digitAt]
    split
    · next heq => rw [heq]; rfl
    · next heq => rw [heq]; rfl
  · next heq => cases heq

theorem digitAt_cons {d : Char} (hd : Text.isDecimal d.toNat = true) (text : List Char) :
    digitAt (d :: text) = [d] := by
  simp [digitAt, hd]

theorem digitAt_eq_nil_or (text : List Char) :
    digitAt text = [] ∨ ∃ d rest, text = d :: rest ∧ Text.isDecimal d.toNat = true := by
  cases text with
  | nil => exact .inl rfl
  | cons d rest =>
    by_cases hd : Text.isDecimal d.toNat = true
    · exact .inr ⟨d, rest, rfl, hd⟩
    · exact .inl (by simp [digitAt, hd])

theorem isDecimal_of_mem_digitAt {d : Char} (h : d ∈ digitAt text) : Text.isDecimal d.toNat = true :=
  List.mem_takeWhile_imp (p := fun d : Char => Text.isDecimal d.toNat) (List.mem_of_mem_take h)

theorem references_drop_digitAt (text : List Char) :
    references (text.drop (digitAt text).length) = references text := by
  have hback : '\\' ∉ digitAt text := fun h => absurd (isDecimal_of_mem_digitAt h) (by decide)
  have hprefix : digitAt text <+: text := (List.take_prefix _ _).trans (List.takeWhile_prefix _)
  rw [← references_append hback, List.prefix_iff_eq_append.mp hprefix]

theorem references_of_decimal (hc : Text.isDecimal c.toNat = true) (text : List Char) :
    references ('\\' :: c :: text) = (c :: digitAt text) :: references text := by
  rw [references_of_some (referenceAt?_of_decimal hc text), List.drop_succ_cons, references_drop_digitAt]
  rfl

theorem referenceAt?_of_name (hname : '>' ∉ name) (rest : List Char) :
    referenceAt? ('g' :: '<' :: (name ++ '>' :: rest)) = some (some name, name.length + 3) := by
  have htake : (name ++ '>' :: rest).takeWhile (· != '>') = name := by
    rw [List.takeWhile_append_of_pos, List.takeWhile_cons_of_neg (by simp), List.append_nil]
    intro c hc
    rw [bne_iff_ne]
    rintro rfl
    exact hname hc
  simp only [referenceAt?]
  rw [htake, if_pos (by simp)]

theorem references_of_name (hname : '>' ∉ name) (rest : List Char) :
    references ('\\' :: 'g' :: '<' :: (name ++ '>' :: rest)) = name :: references rest := by
  rw [references_of_some (referenceAt?_of_name hname rest)]
  simp

/-- The reference that is found where a backslash stands before a text. -/
def foundAt (text : List Char) : Option (List Char) := (referenceAt? text).bind Prod.fst

theorem foundAt_of_decimal (hc : Text.isDecimal c.toNat = true) (text : List Char) :
    foundAt (c :: text) = some (c :: digitAt text) := by
  rw [foundAt, referenceAt?_of_decimal hc]
  rfl

theorem foundAt_of_not_decimal (hc : Text.isDecimal c.toNat = false) (hg : c ≠ 'g') (text : List Char) :
    foundAt (c :: text) = none := by
  unfold foundAt referenceAt?
  split <;> simp_all

theorem foundAt_of_name (hname : '>' ∉ name) (rest : List Char) :
    foundAt ('g' :: '<' :: (name ++ '>' :: rest)) = some name := by
  rw [foundAt, referenceAt?_of_name hname]
  rfl

theorem isAsciiDigit_of_isDigit (h : c.isDigit = true) : Text.isAsciiDigit c.toNat = true := by
  simp only [Char.isDigit, Bool.and_eq_true, decide_eq_true_eq, ge_iff_le, UInt32.le_iff_toNat_le] at h
  rw [Text.isAsciiDigit, Bool.and_eq_true, decide_eq_true_eq, decide_eq_true_eq]
  exact h

theorem isDecimal_of_isDigit (h : c.isDigit = true) : Text.isDecimal c.toNat = true := by
  rw [Text.isDecimal, Text.decimalValue?_ascii (isAsciiDigit_of_isDigit h), Option.isSome_some]

theorem digitValue_of_isDigit (h : c.isDigit = true) : Numeral.digitValue c = Regex.hexValue c := by
  rw [Numeral.digitValue, Text.decimalValue?_ascii (isAsciiDigit_of_isDigit h), Regex.hexValue, if_pos h,
    Option.getD_some]

/-- A number that is found: a numeral that is no name, of a value that the number of the part does not exceed. -/
def Bounds (reference : List Char) (number : Nat) : Prop :=
  Text.isIdentifier reference = false ∧ ∃ m ≥ number, Numeral.readInt reference = .ok (.ofNat m)

/-- What is found for a part refers to the part, or to a group beyond it. -/
def Covers (found : Option (List Char)) : Part → Prop
  | .text _ => True
  | .number number => ∃ reference, found = some reference ∧ Bounds reference number
  | .name name => found = some name ∧ Text.isIdentifier name = true

theorem bounds_of_decimal (hc : Text.isDecimal c.toNat = true) (text : List Char) {number : Nat}
    (hnumber : number ≤ Numeral.ofDigits ((c :: digitAt text).map Numeral.digitValue)) :
    Bounds (c :: digitAt text) number := by
  have hdecimal : ∀ d ∈ c :: digitAt text, Text.isDecimal d.toNat = true :=
    List.forall_mem_cons.mpr ⟨hc, fun _ => isDecimal_of_mem_digitAt⟩
  have hlength : (digitAt text).length ≤ 1 := List.length_take_le ..
  refine ⟨?_, _, hnumber, Numeral.readInt_of_decimal hdecimal ?_⟩
  · rw [Text.isIdentifier, Text.isIdentifierStart_of_isDecimal hc, Bool.false_and]
  · rw [List.length_cons, Numeral.digitLimit]
    omega

theorem digitValue_le_ofDigits (c : Char) (text : List Char) :
    Numeral.digitValue c ≤ Numeral.ofDigits ((c :: digitAt text).map Numeral.digitValue) := by
  have hlength : (digitAt text).length ≤ 1 := List.length_take_le ..
  match digitAt text, hlength with
  | [], _ => simp [Numeral.ofDigits]
  | [d], _ =>
    simp [Numeral.ofDigits]
    omega

theorem not_decimal_of_controlEscape? {n : Nat} (h : Regex.controlEscape? c = some n) :
    Text.isDecimal c.toNat = false ∧ c ≠ 'g' := by
  unfold Regex.controlEscape? at h
  split at h <;> first | decide | cases h

/-- Behind the reference that is found, the search goes on where the escape ends. -/
theorem references_escape (h : Escape (c :: text) part rest) :
    references ('\\' :: c :: text) = (foundAt (c :: text)).toList ++ references rest := by
  have htext : references text = references rest := by
    obtain ⟨plain, rfl, hplain⟩ := h.exists_plain
    exact references_append hplain rest
  have hdecimal (hc : Text.isDecimal c.toNat = true) :
      references ('\\' :: c :: text) = (foundAt (c :: text)).toList ++ references rest := by
    rw [references_of_decimal hc, foundAt_of_decimal hc, htext]
    rfl
  have hother (hc : Text.isDecimal c.toNat = false) (hg : c ≠ 'g') :
      references ('\\' :: c :: text) = (foundAt (c :: text)).toList ++ references rest := by
    rw [references_of_not_decimal hc hg, foundAt_of_not_decimal hc hg, htext]
    rfl
  cases h with
  | control hcontrol =>
    obtain ⟨hc, hg⟩ := not_decimal_of_controlEscape? hcontrol
    exact hother hc hg
  | plain hcontrol hletter hdigit =>
    by_cases hc : Text.isDecimal c.toNat = true
    · exact hdecimal hc
    · refine hother (by simpa using hc) ?_
      rintro rfl
      exact absurd hletter (by decide)
  | zero hds => exact hdecimal (by decide)
  | code hc _ _ _ _ => exact hdecimal (isDecimal_of_isDigit (Regex.Template.isDigit_of_isOctalDigit hc))
  | one hc _ _ => exact hdecimal (isDecimal_of_isDigit hc)
  | two hc _ _ _ => exact hdecimal (isDecimal_of_isDigit hc)
  | name hname =>
    have hangle := Regex.Template.not_mem_of_isIdentifier (d := '>') (by decide) (by decide) hname
    rw [references_of_name hangle, foundAt_of_name hangle]
    rfl
  | index hname hnumber _ =>
    have hangle := Regex.Template.not_mem_of_readInt (d := '>') (by decide) hnumber
    rw [references_of_name hangle, foundAt_of_name hangle]
    rfl

theorem covers_foundAt (h : Escape (c :: text) part rest) : Covers (foundAt (c :: text)) part := by
  cases h with
  | control | plain | zero | code => trivial
  | one hc hzero hrest =>
    have hdecimal := isDecimal_of_isDigit hc
    refine ⟨_, foundAt_of_decimal hdecimal text, bounds_of_decimal hdecimal _ ?_⟩
    have hvalue : Regex.valueOf 10 [c] = Numeral.digitValue c := by
      simp [Regex.valueOf, digitValue_of_isDigit hc]
    exact hvalue ▸ digitValue_le_ofDigits c text
  | @two _ b _ hc hzero hb hrest =>
    have hdecimal := isDecimal_of_isDigit hc
    refine ⟨_, foundAt_of_decimal hdecimal _, bounds_of_decimal hdecimal _ ?_⟩
    rw [digitAt_cons (isDecimal_of_isDigit hb)]
    simp [Regex.valueOf, Numeral.ofDigits, digitValue_of_isDigit hc, digitValue_of_isDigit hb]
  | name hname =>
    have hangle := Regex.Template.not_mem_of_isIdentifier (d := '>') (by decide) (by decide) hname
    exact ⟨foundAt_of_name hangle _, hname⟩
  | index hname hnumber _ =>
    have hangle := Regex.Template.not_mem_of_readInt (d := '>') (by decide) hnumber
    exact ⟨_, foundAt_of_name hangle _, hname, _, Nat.le_refl _, hnumber⟩

variable {regex : Regex} {pattern replacement : String} {reference : List Char}

/-- A reference passes as the number of a group, if it is all digits, or as the name of one. -/
theorem of_checkReference (h : checkReference regex pattern replacement reference = .ok ()) :
    (reference ≠ [] ∧ (∀ c ∈ reference, Text.isDigit c.toNat = true) ∧
        ∃ m, Numeral.readInt reference = .ok m ∧ m ≤ Int.ofNat regex.groups) ∨
      ∃ k, regex.names.lookup (String.ofList reference) = some k := by
  simp only [checkReference] at h
  split at h
  · next hdigits =>
    rw [Bool.and_eq_true, List.all_eq_true] at hdigits
    refine .inl ⟨by simpa using hdigits.1, hdigits.2, ?_⟩
    split at h
    · next m hm =>
      split at h
      · cases h
      · next hle => exact ⟨m, hm, by omega⟩
    · cases h
    · cases h
  · split at h
    · cases h
    · next hlookup => exact .inr (Option.ne_none_iff_exists'.mp (by simpa using hlookup))

/-- A name that a regex defines is an identifier and stands for one of its groups. -/
theorem of_lookup (hnames : ∀ g ∈ regex.names, Text.isIdentifier g.1.toList = true ∧ g.2 ≤ regex.groups) {k : Nat}
    (h : regex.names.lookup (String.ofList name) = some k) : Text.isIdentifier name = true ∧ k ≤ regex.groups := by
  obtain ⟨before, after, heq, -⟩ := List.lookup_eq_some_iff.mp h
  have := hnames (String.ofList name, k) (by simp [heq])
  rwa [String.toList_ofList] at this

theorem not_all_isDigit_of_isIdentifier (h : Text.isIdentifier name = true) :
    ¬ ∀ d ∈ name, Text.isDigit d.toNat = true := by
  intro hdigits
  cases name with
  | nil => cases h
  | cons d name =>
    rw [Text.isIdentifier, Text.isIdentifierStart_of_isDigit (hdigits d List.mem_cons_self)] at h
    cases h

theorem denotes_of_covers (hnames : ∀ g ∈ regex.names, Text.isIdentifier g.1.toList = true ∧ g.2 ≤ regex.groups)
    {found : Option (List Char)} (hcovers : Covers found part)
    (hcheck : ∀ reference ∈ found, checkReference regex pattern replacement reference = .ok ()) :
    ∃ piece, part.Denotes regex.groups regex.names piece := by
  cases part with
  | text text => exact ⟨_, .text text⟩
  | number number =>
    obtain ⟨reference, rfl, hname, m, hle, hm⟩ := hcovers
    obtain ⟨-, -, n, hn, hbound⟩ | ⟨k, hk⟩ := of_checkReference (hcheck reference rfl)
    · cases hn.symm.trans hm
      have : (m : Int) ≤ regex.groups := hbound
      exact ⟨_, .number (by omega)⟩
    · exact absurd (of_lookup hnames hk).1 (by simp [hname])
  | name name =>
    obtain ⟨rfl, hname⟩ := hcovers
    obtain ⟨-, hdigits, -⟩ | ⟨k, hk⟩ := of_checkReference (hcheck name rfl)
    · exact absurd hdigits (not_all_isDigit_of_isIdentifier hname)
    · exact ⟨_, .name hk (of_lookup hnames hk).2⟩

/-- If every reference that is found passes, the regex has every group of the reading. -/
theorem exists_denotes (hnames : ∀ g ∈ regex.names, Text.isIdentifier g.1.toList = true ∧ g.2 ≤ regex.groups)
    {parts : List Part} (hreads : Reads text parts)
    (hcheck : ∀ reference ∈ references text, checkReference regex pattern replacement reference = .ok ()) :
    ∃ ps, List.Forall₂ (Part.Denotes regex.groups regex.names) parts ps := by
  induction hreads with
  | done => exact ⟨[], .nil⟩
  | plain hc _ ih =>
    rw [references_cons hc] at hcheck
    obtain ⟨ps, hps⟩ := ih hcheck
    exact ⟨_, .cons (.text _) hps⟩
  | @escape text _ _ _ hescape _ ih =>
    cases text with
    | nil => cases hescape
    | cons c text =>
      rw [references_escape hescape] at hcheck
      obtain ⟨ps, hps⟩ := ih fun reference h => hcheck reference (List.mem_append_right _ h)
      obtain ⟨piece, hpiece⟩ := denotes_of_covers hnames (covers_foundAt hescape) fun reference h =>
        hcheck reference (List.mem_append_left _ (Option.mem_toList.mpr h))
      exact ⟨_, .cons hpiece hps⟩

/-- A rule is built if and only if all references of its template pass. -/
theorem ofRegex_eq_ok_iff {rule : RenameRule} :
    ofRegex regex pattern replacement = .ok rule ↔
      (∀ reference ∈ references replacement.toList, checkReference regex pattern replacement reference = .ok ()) ∧
        rule = ⟨regex, replacement⟩ := by
  rw [ofRegex, bind_eq_ok_iff]
  simp only [forIn_eq_ok_iff]
  constructor
  · rintro ⟨_, hcheck, hrule⟩
    cases hrule
    exact ⟨hcheck, rfl⟩
  · rintro ⟨hcheck, rfl⟩
    exact ⟨.unit, hcheck, rfl⟩

end StackQuery.RenameRule
