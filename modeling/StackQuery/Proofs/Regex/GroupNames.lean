import Mathlib
import StackQuery.Regex.Basic
import StackQuery.Proofs.Traversal

/-!
# Names of groups

While a regex is read, a name is added only when a group with that name opens, and the number of groups
never goes down. So in a regex that compiles every name is an identifier and stands for one of its
groups.
-/
namespace StackQuery.Regex

open Std.Do

set_option mvcgen.warning false

/-- Every name known so far is an identifier and stands for a group that was opened. -/
def ParseState.Named (s : ParseState) : Prop :=
  ∀ g ∈ s.names, Text.isIdentifier g.1.toList = true ∧ g.2 < s.widths.size

namespace ParseState.Named

variable {s t : ParseState}

theorem mono (h : s.Named) (hnames : t.names = s.names) (hwidths : s.widths.size ≤ t.widths.size) :
    t.Named := by
  intro g hg
  obtain ⟨hname, hopen⟩ := h g (hnames ▸ hg)
  exact ⟨hname, by omega⟩

theorem opened (h : s.Named) {name : List Char} (hname : Text.isIdentifier name = true)
    (hnames : t.names = s.names ++ [(String.ofList name, s.widths.size)])
    (hwidths : t.widths.size = s.widths.size + 1) : t.Named := by
  intro g hg
  rw [hnames, List.mem_append, List.mem_singleton] at hg
  obtain hg | rfl := hg
  · obtain ⟨hformer, hopen⟩ := h g hg
    exact ⟨hformer, by omega⟩
  · exact ⟨by rwa [String.toList_ofList], by omega⟩

end ParseState.Named

/-- From a state whose names stand for groups a reader comes to another such state, with a value of a
kind, unless it fails. -/
abbrev Keeps {α : Type} (m : Parser α) (value : α → Prop := fun _ => True) : Prop :=
  ⦃fun s => ⌜s.Named⌝⦄ m ⦃⇓? a s => ⌜s.Named ∧ value a⌝⦄

theorem Keeps.bind {α β : Type} {m : Parser α} {f : α → Parser β} {value : α → Prop} {last : β → Prop}
    (hm : Keeps m value) (hf : ∀ a, value a → Keeps (f a) last) : Keeps (m >>= f) last := by
  mvcgen [hm, hf]
  · next h => exact h.1
  · exact fun _ _ h => h

section Failure

variable {α : Type} {Q : PostCond α (.arg ParseState (.except CompileError .pure))}

@[spec]
theorem throw_spec (e : CompileError) : ⦃fun _ => Q.2.1 e⦄ (throw e : Parser α) ⦃Q⦄ := by
  intro s h
  exact h

@[spec]
theorem failBack_spec (fault : Fault) (back : Nat) :
    ⦃fun s => Q.2.1 (.ill ⟨fault, some (s.reader.place - back)⟩)⦄
      (Parser.failBack fault back : Parser α) ⦃Q⦄ := by
  mvcgen [Parser.failBack, -Spec.throw_MonadExcept]

@[spec]
theorem failAt_spec (fault : Fault) (place : Nat) :
    ⦃fun _ => Q.2.1 (.ill ⟨fault, some place⟩)⦄ (Parser.failAt fault place : Parser α) ⦃Q⦄ := by
  mvcgen [Parser.failAt, -Spec.throw_MonadExcept]

end Failure

namespace Parser

@[spec]
theorem reading_keeps {α : Type} (step : Reader → Except SyntaxError (α × Reader)) :
    Keeps (reading step) := by
  mvcgen [reading, -Spec.throw_MonadExcept]

@[spec]
theorem peek?_keeps : Keeps peek? := by
  mvcgen [peek?]

@[spec]
theorem next?_keeps : Keeps next? := by
  mvcgen [next?]

@[spec]
theorem accept_keeps (c : Char) : Keeps (accept c) := by
  mvcgen [accept]

@[spec]
theorem takeWhile_keeps (p : Char → Bool) (n : Nat) : Keeps (takeWhile p n) := by
  mvcgen [takeWhile]

@[spec]
theorem takeUntil_keeps (terminator : Char) (what : String) : Keeps (takeUntil terminator what) := by
  mvcgen [takeUntil]

@[spec]
theorem groupCount_keeps : Keeps groupCount := by
  mvcgen [groupCount]

@[spec]
theorem closedWidth?_keeps (group : Nat) : Keeps (closedWidth? group) := by
  mvcgen [closedWidth?]

@[spec]
theorem checkLookbehind_keeps (group : Nat) : Keeps (checkLookbehind group) := by
  mvcgen [checkLookbehind]

end Parser

@[spec]
theorem parseHexEscape_keeps (letter : Char) (width : Nat) : Keeps (parseHexEscape letter width) := by
  mvcgen [parseHexEscape, -Spec.throw_MonadExcept]

@[spec]
theorem parseNameEscape_keeps [Text.CharNames] : Keeps parseNameEscape := by
  mvcgen [parseNameEscape]
  assumption

@[spec]
theorem parseCodeEscape?_keeps [Text.CharNames] (c : Char) : Keeps (parseCodeEscape? c) := by
  mvcgen [parseCodeEscape?]

@[spec]
theorem parsePlainEscape_keeps (c : Char) : Keeps (parsePlainEscape c) := by
  mvcgen [parsePlainEscape]

@[spec]
theorem parseSetEscape_keeps [Text.CharNames] (c : Char) : Keeps (parseSetEscape c) := by
  mvcgen [parseSetEscape] <;> assumption

@[spec]
theorem parseBackref_keeps (ds : List Char) : Keeps (parseBackref ds) := by
  mvcgen [parseBackref] <;> assumption

@[spec]
theorem parseNumberEscape_keeps (c : Char) : Keeps (parseNumberEscape c) := by
  mvcgen [parseNumberEscape] <;> assumption

@[spec]
theorem parseEscape_keeps [Text.CharNames] (c : Char) : Keeps (parseEscape c) := by
  mvcgen [parseEscape] <;> assumption

@[spec]
theorem parseSetEnd_keeps [Text.CharNames] (token : List Char) : Keeps (parseSetEnd token) := by
  mvcgen [parseSetEnd]

@[spec]
theorem parseSetMembers_keeps [Text.CharNames] (start fuel : Nat) (members : List SetMember) :
    Keeps (parseSetMembers start fuel members) := by
  induction fuel generalizing members with
  | zero => mvcgen [parseSetMembers]
  | succ fuel ih => mvcgen [parseSetMembers, ih] <;> assumption

@[spec]
theorem parseSet_keeps [Text.CharNames] (start : Nat) : Keeps (parseSet start) := by
  mvcgen [parseSet]
  assumption

@[spec]
theorem parseBounds?_keeps (c : Char) : Keeps (parseBounds? c) := by
  mvcgen [parseBounds?, -Spec.throw_MonadExcept] <;> assumption

@[spec]
theorem repeatedBody_keeps (place : Nat) (items : List Item) : Keeps (repeatedBody place items) := by
  mvcgen [repeatedBody]

@[spec]
theorem parseGreed_keeps : Keeps parseGreed := by
  mvcgen [parseGreed]
  assumption

@[spec]
theorem refuseFlag_keeps {α : Type} (token : List Char) (otherwise : Fault) :
    Keeps (refuseFlag token otherwise : Parser α) := by
  mvcgen [refuseFlag]

@[spec]
theorem parseFlagsOn_keeps (fuel : Nat) (on : FlagSet) (flag : Flag) : Keeps (parseFlagsOn fuel on flag) := by
  induction fuel generalizing on flag with
  | zero => mvcgen [parseFlagsOn]
  | succ fuel ih =>
    rw [parseFlagsOn]
    extract_lets on
    split_ifs
    · mvcgen
    · mvcgen
    · refine Keeps.bind Parser.next?_keeps fun token _ => ?_
      split
      · mvcgen
      · split <;> mvcgen [ih]

@[spec]
theorem parseFlagsOff_keeps (fuel : Nat) (off : FlagSet) (flag : Flag) :
    Keeps (parseFlagsOff fuel off flag) := by
  induction fuel generalizing off flag with
  | zero => mvcgen [parseFlagsOff]
  | succ fuel ih => mvcgen [parseFlagsOff, ih] <;> assumption

@[spec]
theorem parseFlags_keeps (first : Option Flag) : Keeps (parseFlags first) := by
  mvcgen [parseFlags] <;> assumption

@[spec]
theorem namedGroup_keeps (name : List Char) : Keeps (namedGroup name) := by
  mvcgen [namedGroup]

@[spec]
theorem parseGroupName_keeps (terminator : Char) :
    Keeps (parseGroupName terminator) (Text.isIdentifier · = true) := by
  mvcgen [parseGroupName]
  simp_all

@[spec]
theorem parseNamedBackref_keeps : Keeps parseNamedBackref := by
  mvcgen [parseNamedBackref] <;> simp_all

@[spec]
theorem parseConditionGroup_keeps : Keeps parseConditionGroup := by
  mvcgen [parseConditionGroup] <;> try assumption
  rename_i s h
  exact h.mono (by grind) (by grind)

@[spec]
theorem openGroup_keeps (name : Option (List Char)) (h : ∀ n ∈ name, Text.isIdentifier n = true) :
    Keeps (openGroup name) := by
  mvcgen [openGroup]
  · next s hs _ _ => exact hs.mono rfl (by simp)
  · next s hs _ _ hname _ _ => exact hs.opened (h _ hname) rfl (by simp)

@[spec]
theorem closeGroup_keeps (group : Nat) (body : List Item) : Keeps (closeGroup group body) := by
  mvcgen [closeGroup]
  next s hs _ =>
    exact hs.mono rfl (by rw [Array.size_setIfInBounds])

@[spec]
theorem expectClose_keeps (start : Nat) : Keeps (expectClose start) := by
  mvcgen [expectClose]

@[spec]
theorem skipComment_keeps (start fuel : Nat) : Keeps (skipComment start fuel) := by
  induction fuel with
  | zero => mvcgen [skipComment]
  | succ fuel ih => mvcgen [skipComment, ih] <;> assumption

@[spec]
theorem skipLine_keeps (fuel : Nat) : Keeps (skipLine fuel) := by
  induction fuel with
  | zero => mvcgen [skipLine]
  | succ fuel ih =>
    mvcgen [skipLine, ih]
    assumption

/-- If a group is opened with a name, the name is an identifier. -/
def Opening.Named : Opening → Prop
  | .group name .. => ∀ n ∈ name, Text.isIdentifier n = true
  | _ => True

@[spec]
theorem parseOpening_keeps (start : Nat) : Keeps (parseOpening start) Opening.Named := by
  mvcgen [parseOpening] <;> simp_all [Opening.Named]

@[spec]
theorem parseCharacter_keeps [Text.CharNames] (start : Nat) (c : Char) (items : List Item) :
    Keeps (parseCharacter start c items) := by
  mvcgen [parseCharacter] <;> assumption

@[spec]
theorem parseToken_keeps [Text.CharNames] (start : Nat) (token : List Char) (items : List Item) :
    Keeps (parseToken start token items) := by
  mvcgen [parseToken]

@[spec]
theorem parseConditional_keeps {branch : Parser (List Item)} (h : Keeps branch) (start : Nat) :
    Keeps (parseConditional branch start) := by
  mvcgen [parseConditional, h] <;> assumption

@[spec]
theorem parseLook_keeps {body : Parser (List Item)} (h : Keeps body) (start : Nat) (behind negated : Bool) :
    Keeps (parseLook body start behind negated) := by
  mvcgen [parseLook, h] <;> assumption

@[spec]
theorem parseGroup_keeps {body : Parser (List Item)} (h : Keeps body) (start : Nat) (name : Option (List Char))
    (hname : ∀ n ∈ name, Text.isIdentifier n = true) (capture atomic : Bool) (on off : FlagSet) :
    Keeps (parseGroup body start name capture atomic on off) := by
  mvcgen [parseGroup, h] <;> assumption

theorem parse_keeps [Text.CharNames] (fuel : Nat) :
    (∀ verbose top read, Keeps (parseAlternatives fuel verbose top read)) ∧
      ∀ verbose first items, Keeps (parseItems fuel verbose first items) := by
  induction fuel with
  | zero => exact ⟨fun _ _ _ => by mvcgen [parseAlternatives], fun _ _ _ => by mvcgen [parseItems]⟩
  | succ fuel ih =>
    obtain ⟨halternatives, hitems⟩ := ih
    constructor
    · intro verbose top read
      mvcgen [parseAlternatives, halternatives, hitems] <;> assumption
    · intro verbose first items
      mvcgen [parseItems, halternatives, hitems] <;> simp_all [Opening.Named]

/-- In a regex that was read every name is an identifier and stands for one of its groups. -/
def Parsed.Named (p : Parsed) : Prop := ∀ g ∈ p.names, Text.isIdentifier g.1.toList = true ∧ g.2 ≤ p.groups

theorem parseWhole_keeps [Text.CharNames] : Keeps parseWhole Parsed.Named := by
  have halternatives := fun fuel => (parse_keeps fuel).1
  mvcgen [parseWhole, halternatives, -Spec.throw_MonadExcept]
  next s _ _ _ _ hs =>
    refine ⟨hs, fun g hg => ?_⟩
    obtain ⟨hname, hopen⟩ := hs g hg
    exact ⟨hname, Nat.le_sub_one_of_lt hopen⟩

theorem Keeps.of_run {α : Type} {m : Parser α} {value : α → Prop} (h : Keeps m value) {s t : ParseState}
    {a : α} (hs : s.Named) (hrun : m s = .ok (a, t)) : value a := by
  have hwp : (wp⟦m.run s⟧ (⇓? p => ⌜p.2.Named ∧ value p.1⌝)).down := h s hs
  rw [StateT.run, hrun] at hwp
  exact hwp.2

/-- In a regex that compiles every name is an identifier and stands for one of its groups. -/
theorem named_of_compile [Text.CharNames] {text : String} {regex : Regex} (h : Regex.compile text = .ok regex) :
    ∀ g ∈ regex.names, Text.isIdentifier g.1.toList = true ∧ g.2 ≤ regex.groups := by
  simp only [Regex.compile, bind_eq_ok_iff] at h
  obtain ⟨parsed, hparsed, h⟩ := h
  have hnamed : parsed.Named := by
    rw [parse] at hparsed
    split at hparsed
    · cases hparsed
    · next reader _ =>
      cases hrun : parseWhole ⟨reader, [], [], #[none], none, []⟩ with
      | error e =>
        rw [hrun] at hparsed
        cases hparsed
      | ok result =>
        rw [hrun] at hparsed
        cases hparsed
        exact parseWhole_keeps.of_run (by simp [ParseState.Named]) hrun
  split at h
  · cases h
    exact hnamed
  · cases h

end StackQuery.Regex
