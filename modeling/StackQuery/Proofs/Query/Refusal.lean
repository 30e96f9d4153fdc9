import StackQuery.Proofs.Query.Cursor
import StackQuery.Proofs.Query.Parsing
import StackQuery.Regex.Cache

/-!
# What escapes from reading a query

Reading a query gives a pattern or an error that points into the query, and no column beyond its end is looked
at. The one exception is a regex that is refused for a reason other than its form: the reason is passed on as
it is.
-/
namespace StackQuery.Query

variable {σ : Type} {compile : Compiler σ} {query : String} {store : σ}
  {terms : List RawTerm} {f : Failure} {e : Regex.CompileError}

/-- How terms fail to resolve: one after the other, up to the first whose regex fails. -/
theorem resolveAll_eq_error_iff :
    (resolveAll compile query terms store).1 = .error f ↔
      ∃ before t after nodes store', terms = before ++ t :: after ∧
        resolveAll compile query before store = (.ok nodes, store') ∧
        (t.atom.resolve compile query store').1 = .error f := by
  induction terms generalizing store with
  | nil => simp [resolveAll]
  | cons first rest ih =>
    cases hfirst : first.atom.resolve compile query store with
    | mk result store₁ =>
      cases result with
      | error f' =>
        rw [resolveAll_cons_error hfirst]
        constructor
        · intro h
          cases h
          exact ⟨[], first, rest, [], store, rfl, rfl, by rw [hfirst]⟩
        · rintro ⟨before, t, after, nodes, store', hterms, hbefore, ht⟩
          cases before with
          | nil =>
            cases hterms
            cases hbefore
            rw [hfirst] at ht
            cases ht
            rfl
          | cons b before =>
            cases hterms
            rw [resolveAll_cons_error hfirst] at hbefore
            cases hbefore
      | ok inner =>
        have hrest : (resolveAll compile query (first :: rest) store).1 = .error f ↔
            (resolveAll compile query rest store₁).1 = .error f := by
          rw [resolveAll_cons_ok hfirst]
          cases (resolveAll compile query rest store₁).1 <;> simp [Except.map]
        rw [hrest, ih]
        constructor
        · rintro ⟨before, t, after, nodes, store', rfl, hbefore, ht⟩
          refine ⟨first :: before, t, after, first.wrap inner :: nodes, store', rfl, ?_, ht⟩
          rw [resolveAll_cons_ok hfirst, hbefore]
          rfl
        · rintro ⟨before, t, after, nodes, store', hterms, hbefore, ht⟩
          cases before with
          | nil =>
            cases hterms
            cases hbefore
            rw [hfirst] at ht
            cases ht
          | cons b before =>
            cases hterms
            rw [resolveAll_cons_ok hfirst] at hbefore
            cases hothers : resolveAll compile query before store₁ with
            | mk result store₂ =>
              rw [hothers] at hbefore
              cases result with
              | error f' => cases hbefore
              | ok others =>
                cases hbefore
                exact ⟨before, t, after, others, _, rfl, hothers, ht⟩

theorem regexFailure_eq_refused_iff {text : String} {brace : Nat} {found : Regex.CompileError} :
    regexFailure query text brace found = .refused e ↔ found = e ∧ ∀ fault, e ≠ .ill fault := by
  cases found with
  | ill error =>
    constructor
    · intro h
      cases h
    · rintro ⟨rfl, hill⟩
      exact absurd rfl (hill error)
  | repetitionTooLarge | conflictingClasses | tooManyDigits | codePointTooLarge =>
    constructor
    · intro h
      cases h
      exact ⟨rfl, nofun⟩
    · rintro ⟨rfl, -⟩
      rfl

/-- A regex is refused if the compiler fails on it for another reason than its form. -/
theorem resolve_eq_refused_iff {atom : RawAtom} :
    (atom.resolve compile query store).1 = .error (.refused e) ↔
      (∀ fault, e ≠ .ill fault) ∧ ∃ body brace, atom = .leaf body brace ∧
        (compile (String.ofList body) store).1 = .error e := by
  cases atom with
  | any => simp [RawAtom.resolve]
  | leaf body brace =>
    rw [RawAtom.resolve]
    cases hcompile : compile (String.ofList body) store with
    | mk result store' =>
      cases result with
      | ok accepts => simp [hcompile]
      | error found => simp [hcompile, regexFailure_eq_refused_iff, and_comm]

/-- A refusal comes from the terms; the fault of an outline is never one. -/
theorem parseIn_eq_refused_iff :
    (parseIn compile query store).1 = .error (.refused e) ↔
      (resolveAll compile query (outline query.toList).1 store).1 = .error (.refused e) := by
  unfold parseIn
  cases outline query.toList with
  | mk terms fault =>
    dsimp only
    cases resolveAll compile query terms store with
    | mk result store' =>
      cases result with
      | error f => simp
      | ok nodes =>
        cases fault with
        | some located => simp
        | none => cases nodes <;> simp

/-- No column beyond the end is looked at, whatever the query. Reading it gives a pattern or an error that points
into the query, except where the compiler fails on a leaf, with those before it compiled, for another reason
than its form: that reason escapes as it is. -/
theorem refused_iff_compiler_refuses (compile : Compiler σ) (query : String) (store : σ) :
    (∀ column, (Cursor.scan query.toList).2 ≠ some (.beyond column)) ∧
    Cursor.scan query.toList = ((outline query.toList).1, (outline query.toList).2.map .fault) ∧
    ∀ e, (parseIn compile query store).1 = .error (.refused e) ↔
      (∀ fault, e ≠ .ill fault) ∧ ∃ before t after nodes store' body brace,
        (outline query.toList).1 = before ++ t :: after ∧
        resolveAll compile query before store = (.ok nodes, store') ∧
        t.atom = .leaf body brace ∧ (compile (String.ofList body) store').1 = .error e := by
  refine ⟨fun column h => ?_, Cursor.scan_eq _, fun e => ?_⟩
  · rw [Cursor.scan_eq] at h
    obtain ⟨located, -, hlocated⟩ := Option.map_eq_some_iff.mp h
    cases hlocated
  · rw [parseIn_eq_refused_iff, resolveAll_eq_error_iff]
    constructor
    · rintro ⟨before, t, after, nodes, store', hterms, hbefore, ht⟩
      obtain ⟨hill, body, brace, hatom, hcompile⟩ := resolve_eq_refused_iff.mp ht
      exact ⟨hill, before, t, after, nodes, store', body, brace, hterms, hbefore, hatom, hcompile⟩
    · rintro ⟨hill, before, t, after, nodes, store', body, brace, hterms, hbefore, hatom, hcompile⟩
      exact ⟨before, t, after, nodes, store', hterms, hbefore,
        resolve_eq_refused_iff.mpr ⟨hill, body, brace, hatom, hcompile⟩⟩

/-- A repetition count at the largest one escapes. -/
theorem refused_largest_repetition :
    (parseIn RegexCache.accepts "\x7ba\x7b4294967295\x7d\x7d" .empty).1 =
      .error (.refused .repetitionTooLarge) := by
  have herror : Regex.compile "a\x7b4294967295\x7d" = .error .repetitionTooLarge := by
    have hmatch : (match Regex.compile "a\x7b4294967295\x7d" with | .error e => some e | .ok _ => none) =
        some .repetitionTooLarge := by decide +kernel
    cases hc : Regex.compile "a\x7b4294967295\x7d" with
    | ok regex =>
      rw [hc] at hmatch
      cases hmatch
    | error e =>
      rw [hc] at hmatch
      rw [Option.some.inj hmatch]
  have hcompile : (RegexCache.accepts "a\x7b4294967295\x7d" .empty).1 = .error .repetitionTooLarge := by
    have hget : RegexCache.empty.compiled.get? "a\x7b4294967295\x7d" = none := rfl
    rw [RegexCache.accepts, RegexCache.compile, hget, herror]
    rfl
  obtain ⟨-, -, hrefused⟩ := refused_iff_compiler_refuses RegexCache.accepts "\x7ba\x7b4294967295\x7d\x7d" .empty
  have houtline : (outline "\x7ba\x7b4294967295\x7d\x7d".toList).1 =
      [⟨false, false, .leaf "a\x7b4294967295\x7d".toList 0⟩] := by rfl
  exact (hrefused _).mpr ⟨nofun, [], _, [], [], .empty, _, 0, houtline, rfl, rfl, hcompile⟩

end StackQuery.Query
