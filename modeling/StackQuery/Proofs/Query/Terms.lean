import StackQuery.Proofs.Query.Parsing

/-!
# The terms of accepted queries

A term of an accepted query is an atom, an atom after a skip, or the absence of one of these.
-/
namespace StackQuery.Query

/-- Whether the node matches is up to one frame. -/
def Node.isAtom : Node → Bool
  | .leaf .. | .any => true
  | _ => false

/-- The nodes that a query can have for a term. -/
inductive Node.IsTerm : Node → Prop where
  | atom {atom : Node} (isAtom : atom.isAtom = true) : IsTerm atom
  | skip {atom : Node} (isAtom : atom.isAtom = true) : IsTerm (.skip atom)
  | absent {atom : Node} (isAtom : atom.isAtom = true) : IsTerm (.absent atom)
  | absentSkip {atom : Node} (isAtom : atom.isAtom = true) : IsTerm (.absent (.skip atom))

theorem Node.not_isAbsent_of_isAtom {atom : Node} (h : atom.isAtom = true) : atom.isAbsent = false := by
  cases atom <;> first | rfl | cases h

theorem Node.IsTerm.not_isSeq {term : Node} (h : term.IsTerm) : term.isSeq = false := by
  cases h with
  | atom isAtom => cases term <;> first | rfl | cases isAtom
  | skip | absent | absentSkip => rfl

section
variable {σ : Type} {compile : Compiler σ} {query : String}

theorem isAtom_of_resolve {atom : RawAtom} {store store' : σ} {node : Node}
    (h : atom.resolve compile query store = (.ok node, store')) : node.isAtom = true := by
  cases atom with
  | any =>
    cases h
    rfl
  | leaf text brace =>
    rw [RawAtom.resolve] at h
    cases hc : compile (String.ofList text) store with
    | mk result after =>
      rw [hc] at h
      cases result with
      | error e => cases h
      | ok accepts =>
        cases h
        rfl

theorem isTerm_wrap (t : RawTerm) {atom : Node} (h : atom.isAtom = true) : (t.wrap atom).IsTerm := by
  obtain ⟨negated, skipped, raw⟩ := t
  cases negated <;> cases skipped
  · exact .atom h
  · exact .skip h
  · exact .absent h
  · exact .absentSkip h

theorem isTerm_of_resolveAll {raws : List RawTerm} {store : σ} {nodes : List Node}
    (h : (resolveAll compile query raws store).1 = .ok nodes) : ∀ t ∈ nodes, t.IsTerm := by
  induction raws generalizing store nodes with
  | nil =>
    cases h
    simp
  | cons raw rest ih =>
    obtain ⟨inner, store', others, hinner, hothers, rfl⟩ := resolveAll_cons_eq_ok_iff.mp h
    intro t ht
    rcases List.mem_cons.mp ht with rfl | ht
    · exact isTerm_wrap raw (isAtom_of_resolve hinner)
    · exact ih hothers t ht

theorem isTerm_of_parseIn {store : σ} {p : Pattern} (h : (parseIn compile query store).1 = .ok p) :
    ∀ t ∈ p.terms, t.IsTerm := by
  obtain ⟨-, first, rest, hnodes, rfl⟩ := parseIn_eq_ok_iff.mp h
  have hterms := isTerm_of_resolveAll hnodes
  rw [Pattern.terms, Node.flatten_chain fun t ht => (hterms t ht).not_isSeq]
  exact hterms

end

end StackQuery.Query
