import StackQuery.Proofs.Query.Parsing

/-!
# The steps of the automaton

What a character does in a state, said once: the moves from state to state, and the faults with what stands at
their columns. A state is open if a query that ends there, or after one more dot, has no fault.
-/
namespace StackQuery.Query

open Expecting (go stop opening)

/-- The text of the leaf of a term. -/
def RawTerm.leaf? (t : RawTerm) : Option (List Char) :=
  match t.atom with
  | .any => none
  | .leaf body _ => some body

/-- The texts of the leaves of terms, in order. -/
def leaves (terms : List RawTerm) : List (List Char) := terms.filterMap RawTerm.leaf?

theorem leaves_append (terms more : List RawTerm) : leaves (terms ++ more) = leaves terms ++ leaves more :=
  List.filterMap_append

def Bare (terms : List RawTerm) : Prop := ∀ t ∈ terms, t.atom = .any

theorem bare_nil : Bare [] := by simp [Bare]

theorem bare_any (negated skipped : Bool) : Bare [⟨negated, skipped, .any⟩] := by simp [Bare]

theorem Bare.leaves_eq {terms : List RawTerm} (h : Bare terms) : leaves terms = [] := by
  refine List.filterMap_eq_nil_iff.mpr fun t ht => ?_
  rw [RawTerm.leaf?, h t ht]

namespace Expecting

/-- A query that ends here, or after one more dot, has no fault. -/
def isOpen : Expecting → Bool
  | .separatorDot _ => false
  | .regex .. => false
  | _ => true

def skipsBlanks : Expecting → Bool
  | .termDot .. => false
  | .joinedDot _ => false
  | state => state.isOpen

/-- The character at a column that begins a mark, an atom or what may become one, and the state that keeps the
column. -/
inductive Begins (n : Nat) : Char → Expecting → Prop where
  | comma : Begins n ',' (.term (some n))
  | bang : Begins n '!' (.negation n)
  | brace (negated skipped : Bool) : Begins n '\x7b' (opening negated skipped n)
  | termDot (negated : Bool) : Begins n '.' (.termDot negated n)
  | joinedDot : Begins n '.' (.joinedDot n)
  | separatorDot : Begins n '.' (.separatorDot n)

/-- The braces that are open inside a regex, and whether a backslash stands last, before and after a
character. -/
inductive Within : Nat → Bool → Char → Nat → Bool → Prop where
  | escaped (depth : Nat) (c : Char) : Within depth true c depth false
  | backslash (depth : Nat) : Within depth false '\\' depth true
  | opening (depth : Nat) : Within depth false '\x7b' (depth + 1) false
  | closing (depth : Nat) : Within (depth + 1) false '\x7d' depth false
  | plain {depth : Nat} {c : Char} (backslash : c ≠ '\\') (brace : c ≠ '\x7b') (closer : c ≠ '\x7d') :
      Within depth false c depth false

/-- What a character at a column does that is no fault: the term that it ends, and the next state. -/
inductive Moves (n : Nat) : Expecting → Char → Option RawTerm → Expecting → Prop where
  | stay {state : Expecting} {c : Char} (skips : state.skipsBlanks = true) (blank : Text.isBlank c = true) :
      Moves n state c none state
  | begin {state next : Expecting} {c : Char} {ended : Option RawTerm} (isOpen : state.isOpen = true)
      (bare : Bare ended.toList) (begins : Begins n c next) : Moves n state c ended next
  | leadingDots (negated : Bool) (dot : Nat) :
      Moves n (.termDot negated dot) '.' none (.leadingDots negated dot)
  | joiningDots (dot : Nat) : Moves n (.separatorDot dot) '.' none (.joiningDots dot)
  | finish {state : Expecting} {c : Char} {ended : Option RawTerm} (bare : Bare ended.toList) :
      Moves n state c ended .separator
  | within {negated skipped escaped escaped' : Bool} {brace depth depth' : Nat} {read : List Char} {c : Char}
      (within : Within depth escaped c depth' escaped') :
      Moves n (.regex negated skipped brace depth escaped read) c none
        (.regex negated skipped brace depth' escaped' (c :: read))
  | close {negated skipped : Bool} {brace : Nat} {read : List Char} :
      Moves n (.regex negated skipped brace 0 false read) '\x7d'
        (some ⟨negated, skipped, .leaf read.reverse brace⟩) .separator

end Expecting

/-- What stands at the column of a fault, up to the end of the query, and the part of it that the fault is
about. -/
inductive Fault.At : Fault → List Char → List Char → Prop where
  | empty {here : List Char} (blank : ∀ c ∈ here, Text.isBlank c = true) : At .empty here []
  | missingTerm (mark : Mark) (rest : List Char) :
      At (.missingTerm mark) (mark.toChars ++ rest) mark.toChars
  | bangAfterDots (rest : List Char) : At .atomAfterDots ('!' :: rest) ('!' :: rest.take 1)
  | dotsAfterDots (rest : List Char) : At .atomAfterDots ('.' :: '.' :: rest) ['.', '.']
  | unclosedBrace (rest : List Char) : At .unclosedBrace ('\x7b' :: rest) ('\x7b' :: rest)
  | strayBrace (rest : List Char) : At .strayBrace ('\x7d' :: rest) ['\x7d']
  | parenthesis {c : Char} (paren : c = '(' ∨ c = ')') (rest : List Char) : At .parenthesis (c :: rest) [c]
  | expectedSeparator (c : Char) (rest : List Char) : At .expectedSeparator (c :: rest) [c]
  | expectedAtom (c : Char) (rest : List Char) : At .expectedAtom (c :: rest) [c]

theorem Fault.At.isPrefix {fault : Fault} {here part : List Char} (h : fault.At here part) : part <+: here := by
  cases h with
  | empty => exact List.nil_prefix
  | missingTerm mark rest => exact List.prefix_append mark.toChars rest
  | bangAfterDots rest => exact (List.prefix_cons_inj '!').mpr (List.take_prefix 1 rest)
  | dotsAfterDots rest => exact List.prefix_append ['.', '.'] rest
  | unclosedBrace rest => exact List.prefix_refl _
  | strayBrace rest => exact List.prefix_append ['\x7d'] rest
  | parenthesis paren rest => exact List.prefix_append [_] rest
  | expectedSeparator c rest => exact List.prefix_append [c] rest
  | expectedAtom c rest => exact List.prefix_append [c] rest

theorem exists_at_unexpected {c : Char} {otherwise : Fault} (rest : List Char)
    (h : ∃ part, otherwise.At (c :: rest) part) : ∃ part, (unexpected c otherwise).At (c :: rest) part := by
  unfold unexpected
  split
  · next hcloser =>
    obtain rfl := eq_of_beq hcloser
    exact ⟨_, .strayBrace rest⟩
  split
  · next hparen => exact ⟨_, .parenthesis (by simpa using hparen) rest⟩
  · exact h

namespace Expecting

/-- What a character at a column does that is a fault: the term that it ends, and the column of the fault. -/
inductive Halts (n : Nat) : Expecting → Char → Option RawTerm → Fault → Nat → Prop where
  | here {state : Expecting} {c : Char} {ended : Option RawTerm} {fault : Fault} (isOpen : state.isOpen = true)
      (bare : Bare ended.toList) (stands : ∀ rest, ∃ part, fault.At (c :: rest) part) :
      Halts n state c ended fault n
  | noTerm (bang : Nat) (c : Char) : Halts n (.negation bang) c none (.missingTerm .bang) bang
  | secondDots (dot : Nat) : Halts n (.joinedDot dot) '.' none .atomAfterDots dot
  | loneDot (dot : Nat) (c : Char) : Halts n (.separatorDot dot) c none .expectedSeparator dot

/-- What a character at a column does: it moves on, or it halts at a fault. -/
def Acts (n : Nat) (state : Expecting) (c : Char) : Step → Prop
  | (ended, .ok next) => Moves n state c ended next
  | (ended, .error (fault, column)) => Halts n state c ended fault column

variable {state next : Expecting} {n : Nat} {c : Char} {ended : Option RawTerm} {fault : Fault} {column : Nat}

theorem acts_stepSeparator (hopen : state.isOpen = true) (hbare : Bare ended.toList) :
    Acts n state c (ended, stepSeparator n c) := by
  unfold stepSeparator
  split
  · exact Moves.finish hbare
  split
  · next hcomma =>
    obtain rfl := eq_of_beq hcomma
    exact Moves.begin hopen hbare .comma
  split
  · next hdot =>
    obtain rfl := eq_of_beq hdot
    exact Moves.begin hopen hbare .separatorDot
  · exact Halts.here hopen hbare fun rest => exists_at_unexpected rest ⟨_, .expectedSeparator c rest⟩

theorem acts_unexpected (hopen : state.isOpen = true) : Acts n state c (stop (unexpected c .expectedAtom) n) :=
  Halts.here hopen bare_nil fun rest => exists_at_unexpected rest ⟨_, .expectedAtom c rest⟩

theorem acts_stepRegex (negated skipped escaped : Bool) (brace depth : Nat) (read : List Char) :
    Acts n (.regex negated skipped brace depth escaped read) c
      (stepRegex negated skipped brace depth escaped read c) := by
  unfold stepRegex
  cases escaped with
  | true => exact Moves.within (.escaped depth c)
  | false =>
    rw [if_neg Bool.false_ne_true]
    split
    · next hbackslash =>
      obtain rfl := eq_of_beq hbackslash
      exact Moves.within (.backslash depth)
    next hbackslash =>
    split
    · next hbrace =>
      obtain rfl := eq_of_beq hbrace
      exact Moves.within (.opening depth)
    next hbrace =>
    split
    · next hcloser =>
      obtain rfl := eq_of_beq hcloser
      cases depth with
      | zero => exact Moves.close
      | succ depth => exact Moves.within (.closing depth)
    · next hcloser =>
      rw [beq_iff_eq] at hbackslash hbrace hcloser
      exact Moves.within (.plain hbackslash hbrace hcloser)

/-- Whatever a character does in a state, it is one of the moves or one of the halts. -/
theorem acts_step (state : Expecting) (n : Nat) (c : Char) : Acts n state c (state.step n c) := by
  cases state with
  | regex negated skipped brace depth escaped read => exact acts_stepRegex negated skipped escaped brace depth read
  | separator => exact acts_stepSeparator rfl bare_nil
  | separatorDot dot =>
    rw [step]
    split
    · next hdot =>
      obtain rfl := eq_of_beq hdot
      exact Moves.joiningDots dot
    · exact Halts.loneDot dot c
  | termDot negated dot =>
    rw [step]
    split
    · next hdot =>
      obtain rfl := eq_of_beq hdot
      exact Moves.leadingDots negated dot
    · exact acts_stepSeparator rfl (bare_any negated false)
  | joinedDot dot =>
    rw [step]
    split
    · next hdot =>
      obtain rfl := eq_of_beq hdot
      exact Halts.secondDots dot
    · exact acts_stepSeparator rfl (bare_any false true)
  | term comma =>
    rw [step]
    split
    · next hblank => exact Moves.stay rfl hblank
    split
    · next hbang =>
      obtain rfl := eq_of_beq hbang
      exact Moves.begin rfl bare_nil .bang
    split
    · next hbrace =>
      obtain rfl := eq_of_beq hbrace
      exact Moves.begin rfl bare_nil (.brace false false)
    split
    · next hdot =>
      obtain rfl := eq_of_beq hdot
      exact Moves.begin rfl bare_nil (.termDot false)
    · exact acts_unexpected rfl
  | negation bang =>
    rw [step]
    split
    · next hblank => exact Moves.stay rfl hblank
    split
    · next hbrace =>
      obtain rfl := eq_of_beq hbrace
      exact Moves.begin rfl bare_nil (.brace true false)
    split
    · next hdot =>
      obtain rfl := eq_of_beq hdot
      exact Moves.begin rfl bare_nil (.termDot true)
    · exact Halts.noTerm bang c
  | leadingDots negated dots =>
    rw [step]
    split
    · next hblank => exact Moves.stay rfl hblank
    split
    · next hbrace =>
      obtain rfl := eq_of_beq hbrace
      exact Moves.begin rfl bare_nil (.brace negated true)
    split
    · exact Moves.finish (bare_any negated true)
    · exact acts_unexpected rfl
  | joiningDots dots =>
    rw [step]
    split
    · next hblank => exact Moves.stay rfl hblank
    split
    · next hbang =>
      obtain rfl := eq_of_beq hbang
      exact Halts.here rfl bare_nil fun rest => ⟨_, .bangAfterDots rest⟩
    split
    · next hbrace =>
      obtain rfl := eq_of_beq hbrace
      exact Moves.begin rfl bare_nil (.brace false true)
    split
    · next hdot =>
      obtain rfl := eq_of_beq hdot
      exact Moves.begin rfl bare_nil .joinedDot
    · exact acts_unexpected rfl

theorem moves_of_step (h : state.step n c = (ended, .ok next)) : Moves n state c ended next := by
  have hacts := acts_step state n c
  rw [h] at hacts
  exact hacts

theorem halts_of_step (h : state.step n c = (ended, .error (fault, column))) :
    Halts n state c ended fault column := by
  have hacts := acts_step state n c
  rw [h] at hacts
  exact hacts

end Expecting

end StackQuery.Query
