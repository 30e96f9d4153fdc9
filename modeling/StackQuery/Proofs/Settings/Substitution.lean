import StackQuery.Proofs.Traversal
import StackQuery.Settings.Environment
import StackQuery.Settings.Variables
import Mathlib.Data.List.TakeWhile
import Mathlib.Data.Nat.Find

/-!
# Texts cut at their references

A text is cut at its references from left to right: at the first one, then at the first one in what stands
behind it, until none is left. There is one such cut of every text. The substitution, which goes through the
text once, puts the values of variables in place of the references of this cut and keeps all else, or stops at
the first of them whose variable is not set.
-/
namespace StackQuery.Settings

/-- A reference to a name, as it is written. -/
def reference (name : List Char) : List Char := '$' :: '\x7b' :: (name ++ ['\x7d'])

/-- A reference to a name stands at a place of a text. The first closing brace ends the name, which is not
empty. -/
structure RefersAt (text : List Char) (place : Nat) (name : List Char) : Prop where
  ne_nil : name ≠ []
  unclosed : '\x7d' ∉ name
  stands : reference name <+: text.drop place

/-- A text is cut into pieces, which are the text up to the first reference together with its name, then the
same for the text behind this reference, and a last text without references. -/
inductive CutInto : (text : List Char) → (pieces : List (List Char × List Char)) → (last : List Char) → Prop
  | whole {text : List Char} : (∀ place name, ¬ RefersAt text place name) → CutInto text [] text
  | piece {text name last : List Char} {place : Nat} {pieces : List (List Char × List Char)} :
      RefersAt text place name → (∀ earlier < place, ∀ other, ¬ RefersAt text earlier other) →
      CutInto (text.drop (place + (reference name).length)) pieces last →
      CutInto text ((text.take place, name) :: pieces) last

variable {env : Environment} {text name last : List Char} {place : Nat} {pieces : List (List Char × List Char)}

theorem length_reference (name : List Char) : (reference name).length = name.length + 3 := by
  simp [reference]

theorem takeWhile_append_closing (h : '\x7d' ∉ name) (after : List Char) :
    (name ++ '\x7d' :: after).takeWhile (· != '\x7d') = name := by
  rw [List.takeWhile_append_of_pos, List.takeWhile_cons_of_neg (by simp), List.append_nil]
  intro c hc
  exact bne_iff_ne.mpr fun heq => h (heq ▸ hc)

theorem referenceName?_eq_some_iff :
    referenceName? text = some name ↔ name ≠ [] ∧ '\x7d' ∉ name ∧ '\x7b' :: (name ++ ['\x7d']) <+: text := by
  constructor
  · intro h
    unfold referenceName? at h
    split at h
    · next more =>
      simp only [Option.ite_none_right_eq_some, Option.some.injEq, Bool.and_eq_true, Bool.not_eq_true',
        List.isEmpty_eq_false_iff, decide_eq_true_eq] at h
      obtain ⟨⟨hne, hlt⟩, hname⟩ := h
      by_cases hclosed : '\x7d' ∈ more
      · obtain ⟨before, after, rfl, hbefore⟩ := List.eq_append_cons_of_mem hclosed
        rw [takeWhile_append_closing hbefore] at hne hname
        subst hname
        exact ⟨hne, hbefore, after, by simp⟩
      · have hall : more.takeWhile (· != '\x7d') = more :=
          List.takeWhile_eq_self_iff.mpr fun c hc => bne_iff_ne.mpr fun heq => hclosed (heq ▸ hc)
        rw [hall] at hlt
        exact absurd hlt (Nat.lt_irrefl _)
    · cases h
  · rintro ⟨hne, hclosed, after, rfl⟩
    have htext : '\x7b' :: (name ++ ['\x7d']) ++ after = '\x7b' :: (name ++ '\x7d' :: after) := by simp
    simp [htext, referenceName?, takeWhile_append_closing hclosed, hne]

/-- The name of the reference at the head of a text. -/
def nameAt? : List Char → Option (List Char)
  | [] => none
  | c :: rest => if c = '$' then referenceName? rest else none

theorem refersAt_iff : RefersAt text place name ↔ nameAt? (text.drop place) = some name := by
  have hiff : nameAt? (text.drop place) = some name ↔
      name ≠ [] ∧ '\x7d' ∉ name ∧ reference name <+: text.drop place := by
    cases text.drop place with
    | nil => simp [nameAt?, reference]
    | cons c rest =>
      rw [nameAt?, Option.ite_none_right_eq_some, referenceName?_eq_some_iff, reference, List.cons_prefix_cons]
      tauto
  rw [hiff]
  constructor
  · intro h
    exact ⟨h.ne_nil, h.unclosed, h.stands⟩
  · rintro ⟨hne, hclosed, hstands⟩
    exact ⟨hne, hclosed, hstands⟩

theorem not_refersAt_iff : (∀ name, ¬ RefersAt text place name) ↔ nameAt? (text.drop place) = none := by
  simp only [refersAt_iff, Option.eq_none_iff_forall_ne_some, ne_eq]

theorem RefersAt.name_unique {other : List Char} (h : RefersAt text place name) (h' : RefersAt text place other) :
    name = other :=
  Option.some.inj ((refersAt_iff.mp h).symm.trans (refersAt_iff.mp h'))

theorem exists_cutInto (text : List Char) : ∃ pieces last, CutInto text pieces last := by
  -- By recursion on the text behind the first reference, which is shorter since a reference is not empty.
  by_cases h : ∃ place, (nameAt? (text.drop place)).isSome
  · obtain ⟨name, hname⟩ := Option.isSome_iff_exists.mp (Nat.find_spec h)
    have hrefers := refersAt_iff.mpr hname
    have hshorter : (text.drop (Nat.find h + (reference name).length)).length < text.length := by
      have hle := hrefers.stands.length_le
      rw [length_reference, List.length_drop] at hle
      rw [length_reference, List.length_drop]
      omega
    obtain ⟨pieces, last, hrest⟩ := exists_cutInto (text.drop (Nat.find h + (reference name).length))
    refine ⟨_, last, .piece hrefers (fun earlier hlt => not_refersAt_iff.mpr ?_) hrest⟩
    exact Option.not_isSome_iff_eq_none.mp (Nat.find_min h hlt)
  · refine ⟨[], text, .whole fun place => not_refersAt_iff.mpr ?_⟩
    exact Option.not_isSome_iff_eq_none.mp fun hsome => h ⟨place, hsome⟩
termination_by text.length
decreasing_by exact hshorter

theorem CutInto.unique {others : List (List Char × List Char)} {last' : List Char} (h : CutInto text pieces last)
    (h' : CutInto text others last') : others = pieces ∧ last' = last := by
  induction h generalizing others last' with
  | whole hnone =>
    cases h' with
    | whole => exact ⟨rfl, rfl⟩
    | piece hrefers => exact absurd hrefers (hnone _ _)
  | @piece text name last place pieces hrefers hfirst _ ih =>
    cases h' with
    | whole hnone => exact absurd hrefers (hnone _ _)
    | @piece _ name' _ place' _ hrefers' hfirst' hrest' =>
      obtain rfl : place' = place := by
        -- Of two first references neither stands before the other.
        rcases Nat.lt_trichotomy place' place with hlt | heq | hlt
        · exact absurd hrefers' (hfirst _ hlt _)
        · exact heq
        · exact absurd hrefers (hfirst' _ hlt _)
      obtain rfl := hrefers.name_unique hrefers'
      obtain ⟨rfl, rfl⟩ := ih hrest'
      exact ⟨rfl, rfl⟩

theorem CutInto.join (h : CutInto text pieces last) :
    pieces.flatMap (fun p => p.1 ++ reference p.2) ++ last = text := by
  induction h with
  | whole => rfl
  | @piece text name last place pieces hrefers _ _ ih =>
    have hdrop := List.prefix_iff_eq_append.mp hrefers.stands
    rw [List.drop_drop] at hdrop
    rw [List.flatMap_cons, List.append_assoc, ih, List.append_assoc, hdrop, List.take_append_drop]

theorem substituteFrom_eq_drop (env : Environment) (skip : Nat) (text : List Char) :
    substituteFrom env skip text = substituteFrom env 0 (text.drop skip) := by
  induction skip generalizing text with
  | zero => rw [List.drop_zero]
  | succ skip ih =>
    cases text with
    | nil => rw [List.drop_nil, substituteFrom_nil, substituteFrom_nil]
    | cons c rest => rw [substituteFrom, ih, List.drop_succ_cons]

theorem substituteFrom_of_nameAt? (h : nameAt? text = some name) :
    substituteFrom env 0 text =
      match env.lookup (String.ofList name) with
      | some value =>
        (substituteFrom env 0 (text.drop (reference name).length)).map (value.toList ++ ·)
      | none => .error ⟨String.ofList name⟩ := by
  cases text with
  | nil => cases h
  | cons c rest =>
    have hrest : substituteFrom env (name.length + 2) rest =
        substituteFrom env 0 ((c :: rest).drop (reference name).length) := by
      rw [substituteFrom_eq_drop, length_reference, List.drop_succ_cons]
    rw [nameAt?] at h
    cases hvalue : env.lookup (String.ofList name) with
    | none => simp only [substituteFrom, h, hvalue]
    | some value => simp only [substituteFrom, h, hvalue, hrest]

theorem substituteFrom_take (h : ∀ earlier < place, nameAt? (text.drop earlier) = none) :
    substituteFrom env 0 text = (substituteFrom env 0 (text.drop place)).map (text.take place ++ ·) := by
  induction place generalizing text with
  | zero =>
    rw [List.drop_zero]
    cases substituteFrom env 0 text <;> rfl
  | succ place ih =>
    cases text with
    | nil =>
      rw [List.drop_nil, substituteFrom_nil]
      rfl
    | cons c rest =>
      have hhead : (if c = '$' then referenceName? rest else none) = none := h 0 (Nat.succ_pos place)
      have hrest := ih fun earlier hlt => h (earlier + 1) (Nat.succ_lt_succ hlt)
      rw [substituteFrom, hhead, hrest, List.drop_succ_cons]
      cases substituteFrom env 0 (rest.drop place) <;> rfl

theorem substituteFrom_of_none (h : ∀ place name, ¬ RefersAt text place name) :
    substituteFrom env 0 text = .ok text := by
  rw [substituteFrom_take fun earlier (_ : earlier < text.length) => not_refersAt_iff.mp (h earlier),
    List.drop_length, substituteFrom_nil, List.take_length]
  exact congrArg Except.ok (List.append_nil text)

theorem substituteFrom_of_first (hrefers : RefersAt text place name)
    (hfirst : ∀ earlier < place, ∀ other, ¬ RefersAt text earlier other) :
    substituteFrom env 0 text =
      match env.lookup (String.ofList name) with
      | some value =>
        (substituteFrom env 0 (text.drop (place + (reference name).length))).map
          (text.take place ++ value.toList ++ ·)
      | none => .error ⟨String.ofList name⟩ := by
  rw [substituteFrom_take fun earlier hlt => not_refersAt_iff.mp (hfirst earlier hlt),
    substituteFrom_of_nameAt? (refersAt_iff.mp hrefers), List.drop_drop]
  cases env.lookup (String.ofList name) with
  | none => rfl
  | some value =>
    cases substituteFrom env 0 (text.drop (place + (reference name).length)) with
    | error e => rfl
    | ok filled => exact congrArg Except.ok (List.append_assoc _ _ _).symm

/-- A name is not set in an environment. -/
def isUnset (env : Environment) (name : List Char) : Bool := (env.lookup (String.ofList name)).isNone

theorem CutInto.error_iff (h : CutInto text pieces last) {e : MissingVariable} :
    substituteFrom env 0 text = .error e ↔ (pieces.map Prod.snd).find? (isUnset env) = some e.name.toList := by
  induction h with
  | whole hnone =>
    rw [substituteFrom_of_none hnone]
    exact ⟨nofun, nofun⟩
  | @piece text name last place pieces hrefers hfirst _ ih =>
    rw [substituteFrom_of_first hrefers hfirst, List.map_cons, List.find?_cons, isUnset]
    cases env.lookup (String.ofList name) with
    | none =>
      obtain ⟨missing⟩ := e
      simp only [Option.isNone_none, Except.error.injEq, MissingVariable.mk.injEq, Option.some.injEq]
      rw [← String.toList_inj, String.toList_ofList]
    | some value =>
      simp only [Option.isNone_some]
      rw [← ih, map_eq_error_iff]

theorem CutInto.ok_iff (h : CutInto text pieces last) {filled : List Char} :
    substituteFrom env 0 text = .ok filled ↔
      ∃ values : List String,
        List.Forall₂ (fun p value => env.lookup (String.ofList p.2) = some value) pieces values ∧
        filled = (pieces.zipWith (fun p value => p.1 ++ value.toList) values).flatten ++ last := by
  induction h generalizing filled with
  | whole hnone =>
    rw [substituteFrom_of_none hnone, Except.ok.injEq]
    simp [eq_comm]
  | @piece text name last place pieces hrefers hfirst _ ih =>
    rw [substituteFrom_of_first hrefers hfirst]
    simp only [List.forall₂_cons_left_iff]
    cases env.lookup (String.ofList name) with
    | none =>
      constructor
      · intro hok
        cases hok
      · rintro ⟨_, ⟨_, _, hvalue, -, -⟩, -⟩
        cases hvalue
    | some value =>
      dsimp only
      constructor
      · intro hok
        obtain ⟨rest, hrest, rfl⟩ := map_eq_ok_iff.mp hok
        obtain ⟨values, hvalues, rfl⟩ := ih.mp hrest
        refine ⟨value :: values, ⟨value, values, rfl, hvalues, rfl⟩, ?_⟩
        simp
      · rintro ⟨_, ⟨_, values, hvalue, hvalues, rfl⟩, rfl⟩
        cases hvalue
        rw [ih.mpr ⟨values, hvalues, rfl⟩]
        simp [Except.map]

/-- The references of a text are replaced by the values of their variables. The text is cut at them in the one
way there is; the first one whose variable is not set is an error; if all are set, the result is the pieces with
the values, which are not looked at again, and the last text. A text without references stays as it is. -/
theorem substitute_fills_references (env : Environment) (text : String) :
    (∃ pieces last, CutInto text.toList pieces last ∧
      (∀ others last', CutInto text.toList others last' → others = pieces ∧ last' = last) ∧
      pieces.flatMap (fun p => p.1 ++ reference p.2) ++ last = text.toList ∧
      (∀ e, substitute env text = .error e ↔
        (pieces.map Prod.snd).find? (isUnset env) = some e.name.toList) ∧
      ∀ filled, substitute env text = .ok filled ↔
        ∃ values : List String,
          List.Forall₂ (fun p value => env.lookup (String.ofList p.2) = some value) pieces values ∧
          filled.toList = (pieces.zipWith (fun p value => p.1 ++ value.toList) values).flatten ++ last) ∧
    ((∀ place name, ¬ RefersAt text.toList place name) → substitute env text = .ok text) := by
  obtain ⟨pieces, last, hcut⟩ := exists_cutInto text.toList
  refine ⟨⟨pieces, last, hcut, fun _ _ => hcut.unique, hcut.join, fun e => ?_, fun filled => ?_⟩, fun hnone => ?_⟩
  · rw [← hcut.error_iff, substitute, map_eq_error_iff]
  · rw [← hcut.ok_iff, substitute, map_eq_ok_iff]
    constructor
    · rintro ⟨result, hresult, rfl⟩
      rwa [String.toList_ofList]
    · exact fun hresult => ⟨filled.toList, hresult, String.ofList_toList⟩
  · rw [substitute, substituteFrom_of_none hnone]
    exact congrArg Except.ok (String.ofList_toList)

/-- A value that looks like a reference, a reference without a name, a name that looks like the beginning of a
reference, and one that nothing closes; and two names that are not set. -/
theorem substitute_fills_references_nested :
    let env : Environment := [("A", "$\x7bB\x7d"), ("$\x7bB", "b")]
    (∃ pieces last, CutInto "-$\x7bA\x7d$\x7b\x7d$\x7b$\x7bB\x7d$".toList pieces last ∧
      ∃ values : List String,
        List.Forall₂ (fun p value => env.lookup (String.ofList p.2) = some value) pieces values ∧
        "-$\x7bB\x7d$\x7b\x7db$".toList =
          (pieces.zipWith (fun p value => p.1 ++ value.toList) values).flatten ++ last) ∧
    (∃ pieces last, CutInto "$\x7bA\x7d$\x7bC\x7d$\x7bB\x7d".toList pieces last ∧
      (pieces.map Prod.snd).find? (isUnset env) = some "C".toList) ∧
    (∀ place name, ¬ RefersAt "$\x7bA".toList place name) ∧ substitute env "$\x7bA" = .ok "$\x7bA" := by
  intro env
  obtain ⟨⟨pieces, last, hcut, -, -, -, hok⟩, -⟩ :=
    substitute_fills_references env "-$\x7bA\x7d$\x7b\x7d$\x7b$\x7bB\x7d$"
  obtain ⟨⟨others, end', hcut', -, -, herror, -⟩, -⟩ :=
    substitute_fills_references env "$\x7bA\x7d$\x7bC\x7d$\x7bB\x7d"
  have hunclosed : ∀ place name, ¬ RefersAt "$\x7bA".toList place name := by
    intro place name h
    have hclosing : '\x7d' ∈ "$\x7bA".toList :=
      List.mem_of_mem_drop (h.stands.subset (by simp [reference]))
    revert hclosing
    decide
  refine ⟨⟨pieces, last, hcut, (hok _).mp (by decide +kernel)⟩,
    ⟨others, end', hcut', (herror ⟨"C"⟩).mp (by decide +kernel)⟩, hunclosed, ?_⟩
  exact (substitute_fills_references env "$\x7bA").2 hunclosed

end StackQuery.Settings
