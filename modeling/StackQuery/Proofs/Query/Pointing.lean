import StackQuery.Proofs.Query.Place
import StackQuery.Proofs.Query.Refusal
import Mathlib.Algebra.GroupWithZero.Nat

/-!
# Errors that point at the fault

A query that is rejected could have been accepted up to the column of its error: some other text there makes it
one. The part of the query that is reported stands at that column; for a regex that does not compile it is the
whole regex, and the column is inside its braces.
-/
namespace StackQuery.Query

namespace Expecting

/-- What completes a query in an open state. -/
def completion : Expecting → List Char
  | .termDot .. => []
  | .joinedDot _ => []
  | .separator => []
  | _ => ['.']

theorem read_completion {state : Expecting} (h : state.isOpen = true) (n : Nat) :
    Bare (state.read n state.completion).1 ∧ (state.read n state.completion).2 = none := by
  cases state with
  | term | termDot | negation | leadingDots | joiningDots | joinedDot => exact ⟨bare_any _ _, rfl⟩
  | separator => exact ⟨bare_nil, rfl⟩
  | separatorDot | regex => cases h

end Expecting

variable {read tail : List Char} {terms : List RawTerm} {state : Expecting} {column : Nat}
variable (compile : String → Except Regex.CompileError (Frame → Bool))

/-- Some text after a text makes it an accepted query. -/
def Completable (read : List Char) : Prop :=
  ∃ rest p, parseWith compile (String.ofList (read ++ rest)) = .ok p

def LeavesCompile (terms : List RawTerm) : Prop :=
  ∀ body ∈ leaves terms, ∃ accepts, compile (String.ofList body) = .ok accepts

variable {compile}

theorem exists_resolve_iff {t : RawTerm} (query : String) :
    (∃ node, t.atom.resolve (Grammar.storeless compile) query () = (.ok node, ())) ↔
      LeavesCompile compile [t] := by
  obtain ⟨negated, skipped, atom⟩ := t
  cases atom with
  | any => simp [RawAtom.resolve, LeavesCompile, leaves, RawTerm.leaf?]
  | leaf body brace =>
    simp only [RawAtom.resolve, Grammar.storeless]
    cases hc : compile (String.ofList body) <;> simp [LeavesCompile, leaves, RawTerm.leaf?, hc]

theorem exists_resolveAll_iff (query : String) :
    (∃ nodes, (resolveAll (Grammar.storeless compile) query terms ()).1 = .ok nodes) ↔
      LeavesCompile compile terms := by
  induction terms with
  | nil => simp [resolveAll, LeavesCompile, leaves]
  | cons t rest ih =>
    have hsplit : LeavesCompile compile (t :: rest) ↔
        LeavesCompile compile [t] ∧ LeavesCompile compile rest := by
      have happend : leaves (t :: rest) = leaves [t] ++ leaves rest := leaves_append [t] rest
      simp only [LeavesCompile, happend, List.forall_mem_append]
    rw [hsplit, ← ih, ← exists_resolve_iff query]
    simp only [resolveAll_cons_eq_ok_iff]
    constructor
    · rintro ⟨nodes, inner, store, others, hinner, hothers, -⟩
      exact ⟨⟨inner, hinner⟩, others, hothers⟩
    · rintro ⟨⟨inner, hinner⟩, others, hothers⟩
      exact ⟨_, inner, (), others, hinner, hothers, rfl⟩

theorem exists_parseWith_of_outline {query : String} (hfault : (outline query.toList).2 = none)
    (hleaves : LeavesCompile compile (outline query.toList).1) : ∃ p, parseWith compile query = .ok p := by
  obtain ⟨nodes, hnodes⟩ := (exists_resolveAll_iff query).mpr hleaves
  obtain ⟨d, hd⟩ := Grammar.exists_derivation hfault
  have hterms : (outline query.toList).1 = d.raw := by rw [← hd, Grammar.outline_chars]
  have hfirst := hnodes
  rw [hterms, Grammar.Derivation.raw, resolveAll_cons_eq_ok_iff] at hfirst
  obtain ⟨inner, -, others, -, -, rfl⟩ := hfirst
  exact ⟨_, parseIn_eq_ok_iff.mpr ⟨hfault, _, others, hnodes, rfl⟩⟩

/-- What was read up to an open state can be completed if its regexes compile. -/
theorem Arrives.completable (h : Arrives read terms state) (hopen : state.isOpen = true)
    (hleaves : LeavesCompile compile terms) : Completable compile read := by
  obtain ⟨hbare, hnone⟩ := Expecting.read_completion hopen read.length
  have houtline := h.outline_append state.completion
  refine ⟨state.completion, exists_parseWith_of_outline ?_ ?_⟩
  · rw [String.toList_ofList, houtline]
    exact hnone
  · rw [String.toList_ofList, houtline, LeavesCompile, leaves_append, hbare.leaves_eq, List.append_nil]
    exact hleaves

theorem Since.completable (h : Since read terms column tail) (hleaves : LeavesCompile compile terms) :
    ∃ before, read = before ++ tail ∧ before.length = column ∧ Completable compile before := by
  obtain ⟨before, earlier, state, harrives, hopen, hcolumn, hread, hequal⟩ := h
  refine ⟨before, hread, hcolumn, harrives.completable hopen ?_⟩
  rw [LeavesCompile, hequal]
  exact hleaves

/-- How a query fails: at a regex, or with the fault of its outline once all regexes compile. -/
theorem parseIn_eq_error {σ : Type} {compile : Compiler σ} {query : String} {store : σ} {f : Failure}
    (h : (parseIn compile query store).1 = .error f) :
    (resolveAll compile query (outline query.toList).1 store).1 = .error f ∨
    ∃ nodes, (resolveAll compile query (outline query.toList).1 store).1 = .ok nodes ∧
      ((outline query.toList).2 = none ∧ nodes = [] ∨
        ∃ fault column, (outline query.toList).2 = some (fault, column) ∧
          f = .rejected ⟨query, .outline fault, column⟩) := by
  unfold parseIn at h
  cases houtline : outline query.toList with
  | mk terms fault =>
    rw [houtline] at h
    dsimp only at h ⊢
    cases hresolved : resolveAll compile query terms store with
    | mk result store' =>
      rw [hresolved] at h
      cases result with
      | error f' =>
        cases h
        exact .inl rfl
      | ok nodes =>
        refine .inr ⟨nodes, rfl, ?_⟩
        cases fault with
        | some located =>
          cases h
          exact .inr ⟨located.1, located.2, rfl, rfl⟩
        | none =>
          cases nodes with
          | nil => exact .inl ⟨rfl, rfl⟩
          | cons first rest => cases h

theorem resolve_eq_error {σ : Type} {compile : Compiler σ} {query : String} {store : σ} {atom : RawAtom}
    {f : Failure} (h : (atom.resolve compile query store).1 = .error f) :
    ∃ body brace e, atom = .leaf body brace ∧ (compile (String.ofList body) store).1 = .error e ∧
      f = regexFailure query (String.ofList body) brace e := by
  cases atom with
  | any => cases h
  | leaf body brace =>
    rw [RawAtom.resolve] at h
    cases hcompile : compile (String.ofList body) store with
    | mk result store' =>
      simp only [hcompile] at h
      cases result with
      | ok accepts => cases h
      | error e =>
        cases h
        exact ⟨body, brace, e, rfl, by rw [hcompile], rfl⟩

theorem regexFailure_eq_rejected {query text : String} {brace : Nat} {found : Regex.CompileError}
    {e : ParseError} (h : .rejected e = regexFailure query text brace found) :
    ∃ fault position, found = .ill ⟨fault, position⟩ ∧
      e = ⟨query, .regex fault text, brace + 1 + position.getD 0⟩ := by
  cases found with
  | ill error =>
    cases h
    exact ⟨error.fault, error.position, rfl, rfl⟩
  | repetitionTooLarge | conflictingClasses | tooManyDigits | codePointTooLarge => cases h

/-- Why a query fails: the fault of its outline, all of whose regexes compile, or the first regex that does not
compile. -/
theorem error_cases {query : String} {f : Failure} (h : parseWith compile query = .error f) :
    (∃ fault column, (outline query.toList).2 = some (fault, column) ∧
      LeavesCompile compile (outline query.toList).1 ∧ f = .rejected ⟨query, .outline fault, column⟩) ∨
    ∃ before t after body brace e, (outline query.toList).1 = before ++ t :: after ∧
      LeavesCompile compile before ∧ t.atom = .leaf body brace ∧ compile (String.ofList body) = .error e ∧
      f = regexFailure query (String.ofList body) brace e := by
  obtain hresolved | ⟨nodes, hresolved, hfault⟩ := parseIn_eq_error h
  · obtain ⟨before, t, after, nodes, store, hterms, hbefore, ht⟩ := resolveAll_eq_error_iff.mp hresolved
    obtain ⟨body, brace, e, hatom, hcompile, hf⟩ := resolve_eq_error ht
    have hleaves := (exists_resolveAll_iff query).mp ⟨nodes, congrArg Prod.fst hbefore⟩
    exact .inr ⟨before, t, after, body, brace, e, hterms, hleaves, hatom, hcompile, hf⟩
  · have hleaves := (exists_resolveAll_iff query).mp ⟨nodes, hresolved⟩
    obtain ⟨hnone, -⟩ | ⟨fault, column, hlocated, hf⟩ := hfault
    · obtain ⟨p, hp⟩ := exists_parseWith_of_outline hnone hleaves
      cases hp.symm.trans h
    · exact .inl ⟨fault, column, hlocated, hleaves, hf⟩

/-- The part of the query that is reported is the part that the fault is about. -/
theorem fragment_of_at {query : String} {fault : Fault} {column : Nat} {part : List Char}
    (h : fault.At (query.toList.drop column) part) :
    (ParseError.mk query (.outline fault) column).fragment.toList = part := by
  rw [ParseError.fragment, String.toList_ofList]
  dsimp only
  generalize query.toList.drop column = here at h ⊢
  cases h with
  | empty | bangAfterDots | dotsAfterDots | unclosedBrace => rfl
  | strayBrace | parenthesis | expectedSeparator | expectedAtom => rfl
  | missingTerm mark rest => exact List.take_left

theorem utf8ByteSize_ofList (cs : List Char) :
    (String.ofList cs).utf8ByteSize = (cs.map Char.utf8Size).sum := by
  induction cs with
  | nil => rfl
  | cons c rest ih =>
    rw [String.ofList_cons, String.utf8ByteSize_append, String.utf8ByteSize_singleton, ih]
    rfl

/-- Errors point at the fault. Where a query is rejected, the column is not beyond the end, and the offset is the
number of bytes before it. Unless a regex does not compile, the reported part is what the fault is about and
stands at the column, and the query could be completed there. Otherwise the reported part is the whole regex,
between braces that balance, the column lies between its first character and its closing brace, and the query
could be completed before its opening brace. -/
theorem errors_point_at_fault
    (hposition : ∀ text fault position, compile text = .error (.ill ⟨fault, some position⟩) →
      position ≤ text.length)
    (query : String) (e : ParseError) (h : parseWith compile query = .error (.rejected e)) :
    e.column ≤ query.length ∧
    e.offset = ((query.toList.take e.column).map Char.utf8Size).sum ∧
    (∀ fault, e.cause = .outline fault →
      fault.At (query.toList.drop e.column) e.fragment.toList ∧
      e.fragment.toList <+: query.toList.drop e.column ∧
      Completable compile (query.toList.take e.column)) ∧
    ∀ fault text, e.cause = .regex fault text →
      e.fragment = text ∧ (∃ position, compile text = .error (.ill ⟨fault, position⟩)) ∧
      ∃ before after, query.toList = before ++ '\x7b' :: (text.toList ++ '\x7d' :: after) ∧
        Grammar.Closes 0 text.toList ∧ before.length + 1 ≤ e.column ∧
        e.column ≤ before.length + 1 + text.length ∧ Completable compile before := by
  obtain ⟨fault, column, hfault, hleaves, he⟩ |
    ⟨earlier, t, later, body, brace, found, hterms, hleaves, hatom, hcompile, he⟩ := error_cases h
  · -- a fault of the outline: every leaf compiles, so the text before the column can be completed
    cases he
    obtain ⟨tail, part, hsince, hat⟩ := exists_since_of_outline hfault
    obtain ⟨before, hquery, rfl, hcompletable⟩ := hsince.completable hleaves
    have hdrop : query.toList.drop before.length = tail := by rw [hquery, List.drop_left]
    have htake : query.toList.take before.length = before := by rw [hquery, List.take_left]
    have hlength : before.length ≤ query.length := by
      rw [← String.length_toList, hquery, List.length_append]
      exact Nat.le_add_right _ _
    rw [← hdrop] at hat
    refine ⟨hlength, utf8ByteSize_ofList _, ?_, nofun⟩
    rintro _ ⟨⟩
    rw [fragment_of_at hat, htake]
    exact ⟨hat, hat.isPrefix, hcompletable⟩
  · -- a regex: the leaves before it compile, so the text before its brace can be completed
    obtain ⟨fault, position, rfl, rfl⟩ := regexFailure_eq_rejected he
    obtain ⟨hcloses, after, hsince⟩ := leavesStand_outline query.toList earlier t later body brace hterms hatom
    obtain ⟨before, hquery, rfl, hcompletable⟩ := hsince.completable hleaves
    have hinside : position.getD 0 ≤ body.length := by
      cases position with
      | none => exact Nat.zero_le _
      | some position => simpa using hposition _ _ _ hcompile
    have hlength : query.length = before.length + 1 + body.length + 1 + after.length := by
      rw [← String.length_toList, hquery]
      simp only [List.length_append, List.length_cons]
      omega
    refine ⟨by dsimp only; omega, utf8ByteSize_ofList _, nofun, ?_⟩
    rintro _ _ ⟨⟩
    rw [String.toList_ofList, String.length_ofList]
    exact ⟨rfl, ⟨position, hcompile⟩, before, after, hquery, hcloses, Nat.le_add_right _ _, by dsimp only; omega,
      hcompletable⟩

/-- An exclamation mark without a term, and a group that is not closed, each after a leaf of two bytes. -/
theorem errors_point_at_fault_after_leaf :
    let compile : String → Except Regex.CompileError (Frame → Bool) := fun text =>
      match Regex.compile text with
      | .ok regex => .ok regex.found
      | .error (.ill ⟨fault, position⟩) => .error (.ill ⟨fault, position.map (min text.length)⟩)
      | .error e => .error e
    (∀ text fault position, compile text = .error (.ill ⟨fault, some position⟩) → position ≤ text.length) ∧
    (∃ e, parseWith compile "\x7bé\x7d,!" = .error (.rejected e) ∧ e.column = 4 ∧ e.offset = 5 ∧
      e.fragment = "!" ∧ Completable compile "\x7bé\x7d,".toList) ∧
    ∃ e, parseWith compile "\x7bé\x7d,!..\x7bb(c\x7d" = .error (.rejected e) ∧ e.column = 9 ∧ e.offset = 10 ∧
      e.fragment = "b(c" ∧ ∃ before after, "\x7bé\x7d,!..\x7bb(c\x7d".toList =
        before ++ '\x7b' :: ("b(c".toList ++ '\x7d' :: after) ∧ Completable compile before := by
  intro compile
  have hposition : ∀ text fault position, compile text = .error (.ill ⟨fault, some position⟩) →
      position ≤ text.length := by
    intro text fault position h
    cases hc : Regex.compile text with
    | ok regex => simp [compile, hc] at h
    | error found =>
      cases found with
      | ill error =>
        obtain ⟨-, p, -, rfl⟩ : error.fault = fault ∧ ∃ p, error.position = some p ∧
            min text.length p = position := by
          simpa [compile, hc] using h
        exact Nat.min_le_left _ _
      | repetitionTooLarge | conflictingClasses | tooManyDigits | codePointTooLarge =>
        simp [compile, hc] at h
  have hbang : parseWith compile "\x7bé\x7d,!" =
      .error (.rejected ⟨"\x7bé\x7d,!", .outline (.missingTerm .bang), 4⟩) := by rfl
  obtain ⟨accepts, hleaf⟩ : ∃ accepts, compile "é" = .ok accepts := ⟨_, by rfl⟩
  obtain ⟨fault, hill⟩ : ∃ fault, compile "b(c" = .error (.ill ⟨fault, some 1⟩) := ⟨_, by rfl⟩
  have hterms : outline "\x7bé\x7d,!..\x7bb(c\x7d".toList =
      ([⟨false, false, .leaf "é".toList 0⟩, ⟨true, true, .leaf "b(c".toList 7⟩], none) := by rfl
  have hgroup : parseWith compile "\x7bé\x7d,!..\x7bb(c\x7d" =
      .error (.rejected ⟨"\x7bé\x7d,!..\x7bb(c\x7d", .regex fault "b(c", 9⟩) := by
    simp only [parseWith, parseIn, hterms, resolveAll, RawAtom.resolve, String.ofList_toList, hleaf, hill,
      regexFailure_ill]
    rfl
  have hoffset : (String.ofList ("\x7bé\x7d,!..\x7bb(c\x7d".toList.take 9)).utf8ByteSize = 10 := by decide
  obtain ⟨-, -, houtline, -⟩ := errors_point_at_fault hposition _ _ hbang
  obtain ⟨-, -, -, hregex⟩ := errors_point_at_fault hposition _ _ hgroup
  obtain ⟨-, -, hcompletable⟩ := houtline _ rfl
  obtain ⟨hfragment, -, before, after, hquery, -, -, -, hbefore⟩ := hregex _ _ rfl
  exact ⟨hposition, ⟨_, hbang, rfl, by decide, by decide, hcompletable⟩, _, hgroup, rfl, hoffset, hfragment,
    before, after, hquery, hbefore⟩

end StackQuery.Query
