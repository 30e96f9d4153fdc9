import StackQuery.Proofs.Query.Moves

/-!
# The place of a fault

Each fault has a column: where a character stands that was not expected, or where the mark, the brace or the dot
stands that was left unfinished. At that column the state was an open one, and no leaf ended after it. The same
holds of the opening brace of every leaf.
-/
namespace StackQuery.Query

/-- A text is read without a fault so far: the terms that have ended, and what is expected next. -/
inductive Arrives : List Char → List RawTerm → Expecting → Prop where
  | start : Arrives [] [] (.term none)
  | step {read : List Char} {terms : List RawTerm} {state next : Expecting} {c : Char} {ended : Option RawTerm}
      (arrives : Arrives read terms state) (step : state.step read.length c = (ended, .ok next)) :
      Arrives (read ++ [c]) (terms ++ ended.toList) next

variable {read tail text : List Char} {terms more : List RawTerm} {state next : Expecting} {column : Nat}
  {fault : Fault}

theorem Arrives.outline_append (h : Arrives read terms state) (rest : List Char) :
    outline (read ++ rest) =
      (terms ++ (state.read read.length rest).1, (state.read read.length rest).2) := by
  induction h generalizing rest with
  | start => rfl
  | @step read terms state next c ended _ hstep ih =>
    rw [List.append_assoc, List.singleton_append, ih, read_cons hstep, List.append_assoc, List.length_append]
    rfl

/-- At a column, from where on `tail` was read, the state was an open one, and no leaf has ended since. -/
def Since (read : List Char) (terms : List RawTerm) (column : Nat) (tail : List Char) : Prop :=
  ∃ before earlier state, Arrives before earlier state ∧ state.isOpen = true ∧ before.length = column ∧
    read = before ++ tail ∧ leaves earlier = leaves terms

theorem Arrives.since (h : Arrives read terms state) (hopen : state.isOpen = true) (hmore : Bare more)
    (tail : List Char) : Since (read ++ tail) (terms ++ more) read.length tail :=
  ⟨read, terms, state, h, hopen, rfl, rfl, by rw [leaves_append, hmore.leaves_eq, List.append_nil]⟩

theorem Since.append (h : Since read terms column tail) (hmore : Bare more) (rest : List Char) :
    Since (read ++ rest) (terms ++ more) column (tail ++ rest) := by
  obtain ⟨before, earlier, state, harrives, hopen, hcolumn, rfl, hleaves⟩ := h
  refine ⟨before, earlier, state, harrives, hopen, hcolumn, List.append_assoc .., ?_⟩
  rw [leaves_append, hmore.leaves_eq, List.append_nil, hleaves]

/-- Whatever closes the regex now makes it a closed one. -/
def Closable (depth : Nat) (escaped : Bool) (read : List Char) : Prop :=
  match escaped with
  | false => ∀ rest, Grammar.Closes depth rest → Grammar.Closes 0 (read.reverse ++ rest)
  | true => ∀ c rest, Grammar.Closes depth rest → Grammar.Closes 0 (read.reverse ++ c :: rest)

theorem Closable.within {depth depth' : Nat} {escaped escaped' : Bool} {c : Char} {read : List Char}
    (h : Closable depth escaped read) (hw : Expecting.Within depth escaped c depth' escaped') :
    Closable depth' escaped' (c :: read) := by
  cases hw with
  | escaped =>
    intro rest hrest
    rw [List.reverse_cons, List.append_assoc]
    exact h c rest hrest
  | backslash =>
    intro c rest hrest
    rw [List.reverse_cons, List.append_assoc]
    exact h _ (.escaped c hrest)
  | opening =>
    intro rest hrest
    rw [List.reverse_cons, List.append_assoc]
    exact h _ (.opening hrest)
  | closing =>
    intro rest hrest
    rw [List.reverse_cons, List.append_assoc]
    exact h _ (.closing hrest)
  | plain hbackslash hbrace hcloser =>
    intro rest hrest
    rw [List.reverse_cons, List.append_assoc]
    exact h _ (.plain hbackslash hbrace hcloser hrest)

/-- What a state knows of the text before it: the column that it keeps is that of a mark, a dot or a brace, and
before that column the state was an open one. -/
def Recalls (read : List Char) (terms : List RawTerm) : Expecting → Prop
  | .term none => terms = [] ∧ ∀ c ∈ read, Text.isBlank c = true
  | .term (some comma) => ∃ after, Since read terms comma (',' :: after)
  | .termDot _ dot => Since read terms dot ['.']
  | .negation bang => ∃ after, Since read terms bang ('!' :: after)
  | .leadingDots _ dots => ∃ after, Since read terms dots ('.' :: '.' :: after)
  | .joiningDots dots => ∃ after, Since read terms dots ('.' :: '.' :: after)
  | .joinedDot dot => Since read terms dot ['.']
  | .separator => True
  | .separatorDot dot => Since read terms dot ['.']
  | .regex _ _ brace depth escaped inner =>
    Since read terms brace ('\x7b' :: inner.reverse) ∧ Closable depth escaped inner

theorem Recalls.moves {c : Char} {ended : Option RawTerm} (harrives : Arrives read terms state)
    (h : Recalls read terms state) (hmoves : Expecting.Moves read.length state c ended next) :
    Recalls (read ++ [c]) (terms ++ ended.toList) next := by
  cases hmoves with
  | stay hskips hblank =>
    cases state with
    | term comma =>
      cases comma with
      | none =>
        refine ⟨by rw [h.1]; rfl, fun d hd => ?_⟩
        rcases List.mem_append.mp hd with hd | hd
        · exact h.2 d hd
        · rw [List.mem_singleton.mp hd]
          exact hblank
      | some comma =>
        obtain ⟨after, hsince⟩ := h
        exact ⟨_, hsince.append bare_nil [c]⟩
    | negation bang =>
      obtain ⟨after, hsince⟩ := h
      exact ⟨_, hsince.append bare_nil [c]⟩
    | leadingDots negated dots =>
      obtain ⟨after, hsince⟩ := h
      exact ⟨_, hsince.append bare_nil [c]⟩
    | joiningDots dots =>
      obtain ⟨after, hsince⟩ := h
      exact ⟨_, hsince.append bare_nil [c]⟩
    | separator => trivial
    | termDot | joinedDot | separatorDot | regex => cases hskips
  | begin hopen hbare hbegins =>
    -- the mark stands at this very column, where the state is open
    have hsince := harrives.since hopen hbare [c]
    cases hbegins with
    | comma => exact ⟨[], hsince⟩
    | bang => exact ⟨[], hsince⟩
    | brace => exact ⟨hsince, fun rest hrest => hrest⟩
    | termDot | joinedDot | separatorDot => exact hsince
  | leadingDots negated dot => exact ⟨[], h.append bare_nil ['.']⟩
  | joiningDots dot => exact ⟨[], h.append bare_nil ['.']⟩
  | finish => trivial
  | within hwithin =>
    refine ⟨?_, h.2.within hwithin⟩
    rw [List.reverse_cons]
    exact h.1.append bare_nil [c]
  | close => trivial

theorem bare_finish (state : Expecting) : Bare state.finish.1 := by
  cases state with
  | term comma => cases comma <;> exact bare_nil
  | termDot negated dot => exact bare_any negated false
  | joinedDot => exact bare_any false true
  | negation | leadingDots | joiningDots | separator | separatorDot | regex => exact bare_nil

theorem exists_since_of_finish (hrecalls : Recalls read terms state) (h : state.finish.2 = some (fault, column)) :
    ∃ tail part, Since read terms column tail ∧ fault.At tail part := by
  cases state with
  | term comma =>
    cases comma with
    | none =>
      cases h
      obtain ⟨rfl, hblank⟩ := hrecalls
      exact ⟨read, [], ⟨[], [], _, .start, rfl, rfl, rfl, rfl⟩, .empty hblank⟩
    | some comma =>
      cases h
      obtain ⟨after, hsince⟩ := hrecalls
      exact ⟨_, _, hsince, .missingTerm .comma after⟩
  | negation bang =>
    cases h
    obtain ⟨after, hsince⟩ := hrecalls
    exact ⟨_, _, hsince, .missingTerm .bang after⟩
  | leadingDots | joiningDots =>
    cases h
    obtain ⟨after, hsince⟩ := hrecalls
    exact ⟨_, _, hsince, .missingTerm .dots after⟩
  | separatorDot dot =>
    cases h
    exact ⟨_, _, hrecalls, .expectedSeparator '.' []⟩
  | regex =>
    cases h
    exact ⟨_, _, hrecalls.1, .unclosedBrace _⟩
  | termDot | joinedDot | separator => cases h

/-- Where a fault is found: its mark or character stands at its column, where the state was an open one. -/
theorem exists_since_of_read (rest : List Char) (harrives : Arrives read terms state)
    (hrecalls : Recalls read terms state) (h : (state.read read.length rest).2 = some (fault, column)) :
    ∃ tail part, Since (read ++ rest) (terms ++ (state.read read.length rest).1) column tail ∧
      fault.At tail part := by
  induction rest generalizing read terms state with
  | nil =>
    obtain ⟨tail, part, hsince, hat⟩ := exists_since_of_finish hrecalls h
    have happended := hsince.append (bare_finish state) []
    rw [List.append_nil tail] at happended
    exact ⟨tail, part, happended, hat⟩
  | cons c rest ih =>
    cases hstep : state.step read.length c with
    | mk ended result =>
      cases result with
      | ok next =>
        rw [read_cons hstep] at h ⊢
        have hmoves := Expecting.moves_of_step hstep
        obtain ⟨tail, part, hsince, hat⟩ := ih (harrives.step hstep) (hrecalls.moves harrives hmoves) (by
          rw [List.length_append]
          exact h)
        refine ⟨tail, part, ?_, hat⟩
        rw [List.length_append] at hsince
        simpa [List.append_assoc] using hsince
      | error located =>
        have hread : state.read read.length (c :: rest) = (ended.toList, some located) := by
          simp only [Expecting.read, hstep]
        rw [hread] at h ⊢
        cases h
        cases Expecting.halts_of_step hstep with
        | here hopen hbare hstands =>
          obtain ⟨part, hat⟩ := hstands rest
          exact ⟨_, part, harrives.since hopen hbare _, hat⟩
        | noTerm =>
          obtain ⟨after, hsince⟩ := hrecalls
          exact ⟨_, _, hsince.append bare_nil _, .missingTerm .bang _⟩
        | secondDots => exact ⟨_, _, hrecalls.append bare_nil _, .dotsAfterDots rest⟩
        | loneDot => exact ⟨_, _, hrecalls.append bare_nil _, .expectedSeparator '.' _⟩

theorem exists_since_of_outline (h : (outline text).2 = some (fault, column)) :
    ∃ tail part, Since text (outline text).1 column tail ∧ fault.At tail part :=
  exists_since_of_read text .start ⟨rfl, by simp⟩ h

theorem Since.leaves_take (h : Since text terms column tail) :
    leaves (outline (text.take column)).1 = leaves terms := by
  obtain ⟨before, earlier, state, harrives, -, rfl, rfl, hleaves⟩ := h
  have houtline := harrives.outline_append []
  rw [List.append_nil] at houtline
  rw [List.take_left, houtline, leaves_append, ← hleaves]
  exact (congrArg (leaves earlier ++ ·) (bare_finish state).leaves_eq).trans (List.append_nil _)

/-- Every leaf stands between its braces, which are balanced, and before its opening brace the state was an
open one with the leaves before it. -/
def LeavesStand (read : List Char) (terms : List RawTerm) : Prop :=
  ∀ before t after body brace, terms = before ++ t :: after → t.atom = .leaf body brace →
    Grammar.Closes 0 body ∧ ∃ rest, Since read before brace ('\x7b' :: (body ++ '\x7d' :: rest))

theorem LeavesStand.append (h : LeavesStand read terms) (hmore : Bare more) (rest : List Char) :
    LeavesStand (read ++ rest) (terms ++ more) := by
  intro before t after body brace heq ht
  have hnot : t ∉ more := fun hmem => by
    rw [hmore t hmem] at ht
    cases ht
  obtain ⟨after', rfl⟩ : ∃ after', terms = before ++ t :: after' := by
    obtain ⟨a, rfl, ha⟩ | ⟨c, rfl, hc⟩ := List.append_eq_append_iff.mp heq
    · rw [ha] at hnot
      simp at hnot
    · cases c with
      | nil =>
        rw [List.nil_append] at hc
        rw [← hc] at hnot
        simp at hnot
      | cons t' c =>
        cases hc
        exact ⟨c, rfl⟩
  obtain ⟨hcloses, rest', hsince⟩ := h before t after' body brace rfl ht
  refine ⟨hcloses, rest' ++ rest, ?_⟩
  have happended := hsince.append bare_nil rest
  rw [List.append_nil] at happended
  simpa using happended

theorem LeavesStand.close {negated skipped : Bool} {brace : Nat} {inner : List Char}
    (h : LeavesStand read terms)
    (hrecalls : Recalls read terms (.regex negated skipped brace 0 false inner)) :
    LeavesStand (read ++ ['\x7d']) (terms ++ [⟨negated, skipped, .leaf inner.reverse brace⟩]) := by
  intro before t after body brace' heq ht
  obtain ⟨hsince, hclosable⟩ := hrecalls
  rcases List.eq_nil_or_concat after with rfl | ⟨after, last, rfl⟩
  · -- the leaf is the one that has just ended
    obtain ⟨rfl, hlast⟩ := List.append_inj' heq rfl
    cases hlast
    cases ht
    have hcloses := hclosable [] .done
    rw [List.append_nil] at hcloses
    have happended := hsince.append bare_nil ['\x7d']
    rw [List.append_nil] at happended
    exact ⟨hcloses, [], happended⟩
  · rw [List.concat_eq_append, ← List.cons_append, ← List.append_assoc] at heq
    obtain ⟨rfl, -⟩ := List.append_inj' heq rfl
    have hkept := h.append bare_nil ['\x7d']
    rw [List.append_nil] at hkept
    exact hkept before t after body brace' rfl ht

theorem LeavesStand.moves {c : Char} {ended : Option RawTerm} (h : LeavesStand read terms)
    (hrecalls : Recalls read terms state) (hmoves : Expecting.Moves read.length state c ended next) :
    LeavesStand (read ++ [c]) (terms ++ ended.toList) := by
  cases hmoves with
  | begin _ hbare | finish hbare => exact h.append hbare [c]
  | close => exact h.close hrecalls
  | stay | leadingDots | joiningDots | within => exact h.append bare_nil [_]

theorem leavesStand_of_read (rest : List Char) (harrives : Arrives read terms state)
    (hrecalls : Recalls read terms state) (h : LeavesStand read terms) :
    LeavesStand (read ++ rest) (terms ++ (state.read read.length rest).1) := by
  induction rest generalizing read terms state with
  | nil => exact h.append (bare_finish state) []
  | cons c rest ih =>
    cases hstep : state.step read.length c with
    | mk ended result =>
      cases result with
      | ok next =>
        have hmoves := Expecting.moves_of_step hstep
        have hrest := ih (harrives.step hstep) (hrecalls.moves harrives hmoves) (h.moves hrecalls hmoves)
        rw [read_cons hstep]
        rw [List.length_append] at hrest
        simpa [List.append_assoc] using hrest
      | error located =>
        have hread : state.read read.length (c :: rest) = (ended.toList, some located) := by
          simp only [Expecting.read, hstep]
        rw [hread]
        obtain ⟨fault, column⟩ := located
        cases Expecting.halts_of_step hstep with
        | here _ hbare => exact h.append hbare _
        | noTerm | secondDots | loneDot => exact h.append bare_nil _

theorem leavesStand_outline (text : List Char) : LeavesStand text (outline text).1 :=
  leavesStand_of_read text .start ⟨rfl, by simp⟩ (by simp [LeavesStand])

end StackQuery.Query
