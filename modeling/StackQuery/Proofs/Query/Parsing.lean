import StackQuery.Proofs.Query.Reading
import StackQuery.Query.Parser
import Mathlib.Data.List.Forall2

/-!
# What a query denotes

A term denotes a node once the regex of its leaf compiles. A query is accepted exactly when it has a
derivation whose regexes compile; the derivation is the only one, and the chain of the pattern is made of
the nodes that its terms denote.
-/
namespace StackQuery.Query

/-- How a query is accepted: its outline has no fault, and its terms are resolved to a chain. -/
theorem parseIn_eq_ok_iff {σ : Type} {compile : Compiler σ} {query : String} {store : σ} {p : Pattern} :
    (parseIn compile query store).1 = .ok p ↔
      (outline query.toList).2 = none ∧ ∃ first rest,
        (resolveAll compile query (outline query.toList).1 store).1 = .ok (first :: rest) ∧
        p = ⟨query, Node.chain first rest⟩ := by
  unfold parseIn
  cases outline query.toList with
  | mk terms fault =>
    dsimp only
    cases resolveAll compile query terms store with
    | mk result store' =>
      cases result with
      | error e => simp
      | ok nodes =>
        cases fault with
        | some located => simp
        | none => cases nodes <;> simp [eq_comm]

section
variable {σ : Type} {compile : Compiler σ} {query : String} {t : RawTerm} {rest : List RawTerm}
  {store store' : σ}

theorem resolveAll_cons_error {f : Failure} (h : t.atom.resolve compile query store = (.error f, store')) :
    resolveAll compile query (t :: rest) store = (.error f, store') := by
  rw [resolveAll, h]

theorem resolveAll_cons_ok {inner : Node} (h : t.atom.resolve compile query store = (.ok inner, store')) :
    resolveAll compile query (t :: rest) store =
      ((resolveAll compile query rest store').1.map (t.wrap inner :: ·),
        (resolveAll compile query rest store').2) := by
  rw [resolveAll, h]
  dsimp only
  cases resolveAll compile query rest store' with
  | mk result store'' => cases result <;> rfl

/-- How terms are resolved: the first one, and then the others with the store that it leaves. -/
theorem resolveAll_cons_eq_ok_iff {nodes : List Node} :
    (resolveAll compile query (t :: rest) store).1 = .ok nodes ↔
      ∃ inner store' others, t.atom.resolve compile query store = (.ok inner, store') ∧
        (resolveAll compile query rest store').1 = .ok others ∧ nodes = t.wrap inner :: others := by
  cases hfirst : t.atom.resolve compile query store with
  | mk result store' =>
    cases result with
    | error e => simp [resolveAll_cons_error hfirst]
    | ok inner =>
      rw [resolveAll_cons_ok hfirst]
      cases hrest : (resolveAll compile query rest store').1 with
      | error e => simp [Except.map, hrest]
      | ok others => simp [Except.map, hrest, eq_comm]

end

namespace Grammar

variable (compile : String → Except Regex.CompileError (Frame → Bool))

inductive Atom.Denotes : Atom → Node → Prop where
  | any : Denotes .any .any
  | leaf {body : Body} {accepts : Frame → Bool}
      (compiled : compile (String.ofList body.val) = .ok accepts) :
      Denotes (.leaf body) (.leaf (String.ofList body.val) accepts)

/-- The node of a term: a skip around the node of its atom, and an absence around that. -/
inductive Shape.Denotes : Shape → Node → Prop where
  | plain {atom : Atom} {node : Node} (inner : atom.Denotes compile node) :
      Denotes ⟨false, false, atom⟩ node
  | skip {atom : Atom} {node : Node} (inner : atom.Denotes compile node) :
      Denotes ⟨false, true, atom⟩ (.skip node)
  | absent {skipped : Bool} {atom : Atom} {node : Node} (inner : Denotes ⟨false, skipped, atom⟩ node) :
      Denotes ⟨true, skipped, atom⟩ (.absent node)

def Derivation.Compiles (d : Derivation) : Prop :=
  ∀ shape ∈ d.shapes, ∀ body, shape.atom = .leaf body →
    ∃ accepts, compile (String.ofList body.val) = .ok accepts

variable {compile}

theorem Atom.Denotes.not_isSeq {atom : Atom} {node : Node} (h : atom.Denotes compile node) :
    node.isSeq = false := by
  cases h <;> rfl

theorem Shape.Denotes.not_isSeq {shape : Shape} {node : Node} (h : shape.Denotes compile node) :
    node.isSeq = false := by
  cases h with
  | plain inner => exact inner.not_isSeq
  | skip | absent => rfl

/-- The node of a term is the node of its atom with the marks of the term around it. -/
theorem Shape.denotes_iff {shape : Shape} {node : Node} (column : Nat) :
    shape.Denotes compile node ↔
      ∃ inner, shape.atom.Denotes compile inner ∧ node = (shape.raw column).wrap inner := by
  obtain ⟨negated, skipped, atom⟩ := shape
  constructor
  · intro h
    cases h with
    | plain inner => exact ⟨_, inner, rfl⟩
    | skip inner => exact ⟨_, inner, rfl⟩
    | absent inner =>
      cases inner with
      | plain inner => exact ⟨_, inner, rfl⟩
      | skip inner => exact ⟨_, inner, rfl⟩
  · rintro ⟨inner, hatom, rfl⟩
    cases negated <;> cases skipped
    · exact .plain hatom
    · exact .skip hatom
    · exact .absent (.plain hatom)
    · exact .absent (.skip hatom)

theorem Shape.exists_denotes {shape : Shape}
    (h : ∀ body, shape.atom = .leaf body → ∃ accepts, compile (String.ofList body.val) = .ok accepts) :
    ∃ node, shape.Denotes compile node := by
  have hatom : ∃ node, shape.atom.Denotes compile node := by
    cases hs : shape.atom with
    | any => exact ⟨_, .any⟩
    | leaf body =>
      obtain ⟨accepts, hc⟩ := h body hs
      exact ⟨_, .leaf hc⟩
  obtain ⟨inner, hinner⟩ := hatom
  exact ⟨_, (Shape.denotes_iff 0).mpr ⟨inner, hinner, rfl⟩⟩

theorem Shape.Denotes.compiles {shape : Shape} {node : Node} (h : shape.Denotes compile node)
    {body : Body} (hb : shape.atom = .leaf body) :
    ∃ accepts, compile (String.ofList body.val) = .ok accepts := by
  obtain ⟨inner, hinner, -⟩ := (Shape.denotes_iff 0).mp h
  rw [hb] at hinner
  cases hinner with
  | leaf compiled => exact ⟨_, compiled⟩

theorem Derivation.compiles_iff {d : Derivation} :
    d.Compiles compile ↔ ∃ nodes, List.Forall₂ (Shape.Denotes compile) d.shapes nodes := by
  unfold Compiles
  induction d.shapes with
  | nil => simp
  | cons shape rest ih =>
    constructor
    · intro h
      obtain ⟨node, hnode⟩ := Shape.exists_denotes (h shape List.mem_cons_self)
      obtain ⟨nodes, hnodes⟩ := ih.mp fun s hs => h s (List.mem_cons_of_mem _ hs)
      exact ⟨node :: nodes, .cons hnode hnodes⟩
    · rintro ⟨nodes, hnodes⟩ s hs body hb
      cases hnodes with
      | cons hnode hnodes =>
        rcases List.mem_cons.mp hs with rfl | hs
        · exact hnode.compiles hb
        · exact ih.mpr ⟨_, hnodes⟩ s hs body hb

abbrev storeless (compile : String → Except Regex.CompileError (Frame → Bool)) : Compiler Unit :=
  fun text (_ : Unit) => (compile text, ())

theorem resolve_raw_eq_ok_iff {atom : Atom} {node : Node} (column : Nat) (query : String) :
    ((atom.raw column).resolve (storeless compile) query ()).1 = .ok node ↔ atom.Denotes compile node := by
  cases atom with
  | any =>
    constructor
    · intro h
      cases h
      exact .any
    · rintro ⟨⟩
      rfl
  | leaf body =>
    simp only [Atom.raw, RawAtom.resolve, storeless]
    constructor
    · intro h
      cases hc : compile (String.ofList body.val) with
      | error e =>
        rw [hc] at h
        cases h
      | ok accepts =>
        rw [hc] at h
        cases h
        exact .leaf hc
    · rintro ⟨⟩
      rename_i compiled
      rw [compiled]

theorem resolveAll_eq_ok_iff {raws : List RawTerm} {shapes : List Shape} {nodes : List Node}
    (h : List.Forall₂ HasShape raws shapes) (query : String) :
    (resolveAll (storeless compile) query raws ()).1 = .ok nodes ↔
      List.Forall₂ (Shape.Denotes compile) shapes nodes := by
  induction h generalizing nodes with
  | nil => cases nodes <;> simp [resolveAll]
  | @cons raw shape raws shapes hraw _ ih =>
    obtain ⟨column, rfl⟩ := hraw
    rw [resolveAll_cons_eq_ok_iff, List.forall₂_cons_left_iff]
    constructor
    · rintro ⟨inner, store, others, hinner, hothers, rfl⟩
      have hatom := (resolve_raw_eq_ok_iff column query).mp (congrArg Prod.fst hinner)
      exact ⟨_, others, (Shape.denotes_iff column).mpr ⟨inner, hatom, rfl⟩, ih.mp hothers, rfl⟩
    · rintro ⟨node, others, hnode, hothers, rfl⟩
      obtain ⟨inner, hatom, rfl⟩ := (Shape.denotes_iff column).mp hnode
      exact ⟨inner, (), others, Prod.ext ((resolve_raw_eq_ok_iff column query).mpr hatom) rfl,
        ih.mpr hothers, rfl⟩

/-- The terms of links as they are read are the shapes of the links. -/
theorem forall₂_linksRaw (n : Nat) (links : List Link) :
    List.Forall₂ HasShape (linksRaw n links) (links.map (·.joint.shape)) := by
  induction links generalizing n with
  | nil => exact .nil
  | cons link rest ih => exact .cons ⟨_, rfl⟩ (ih _)

theorem Derivation.forall₂_raw (d : Derivation) : List.Forall₂ HasShape d.raw d.shapes :=
  .cons ⟨_, rfl⟩ (forall₂_linksRaw _ d.links)

/-- A query is accepted as the chain of nodes that the terms of a derivation denote. -/
theorem parseWith_eq_ok_iff {query : String} {p : Pattern} :
    parseWith compile query = .ok p ↔
      ∃ d : Derivation, d.chars = query.toList ∧ ∃ first rest,
        List.Forall₂ (Shape.Denotes compile) d.shapes (first :: rest) ∧
        p = ⟨query, Node.chain first rest⟩ := by
  rw [parseWith, parseIn_eq_ok_iff]
  constructor
  · rintro ⟨hfault, first, rest, hnodes, hp⟩
    obtain ⟨d, hd⟩ := exists_derivation hfault
    rw [← hd, outline_chars] at hnodes
    exact ⟨d, hd, first, rest, (resolveAll_eq_ok_iff d.forall₂_raw query).mp hnodes, hp⟩
  · rintro ⟨d, hd, first, rest, hnodes, hp⟩
    rw [← hd, outline_chars]
    exact ⟨rfl, first, rest, (resolveAll_eq_ok_iff d.forall₂_raw query).mpr hnodes, hp⟩

theorem not_isSeq_of_forall₂ {shapes : List Shape} {nodes : List Node}
    (h : List.Forall₂ (Shape.Denotes compile) shapes nodes) : ∀ t ∈ nodes, t.isSeq = false := by
  induction h with
  | nil => simp
  | cons hnode _ ih =>
    intro t ht
    rcases List.mem_cons.mp ht with rfl | ht
    · exact hnode.not_isSeq
    · exact ih t ht

variable (compile)

/-- Queries are read by their grammar. A text is accepted exactly when it has a derivation whose regexes
compile. The derivation of an accepted text is its only one, and its terms denote, in order, the terms
of the pattern, which is their chain. -/
theorem accepted_iff_derivable (query : String) :
    ((∃ p, parseWith compile query = .ok p) ↔
      ∃ d : Derivation, d.chars = query.toList ∧ d.Compiles compile) ∧
    ∀ p, parseWith compile query = .ok p →
      p.text = query ∧ ofTerms p.terms = .ok p.root ∧
      ∃ d : Derivation, d.chars = query.toList ∧ (∀ d' : Derivation, d'.chars = query.toList → d' = d) ∧
        List.Forall₂ (Shape.Denotes compile) d.shapes p.terms := by
  constructor
  · constructor
    · rintro ⟨p, hp⟩
      obtain ⟨d, hd, first, rest, hnodes, -⟩ := parseWith_eq_ok_iff.mp hp
      exact ⟨d, hd, Derivation.compiles_iff.mpr ⟨_, hnodes⟩⟩
    · rintro ⟨d, hd, hcompiles⟩
      obtain ⟨nodes, hnodes⟩ := Derivation.compiles_iff.mp hcompiles
      obtain ⟨first, rest, -, -, rfl⟩ := List.forall₂_cons_left_iff.mp hnodes
      exact ⟨_, parseWith_eq_ok_iff.mpr ⟨d, hd, first, rest, hnodes, rfl⟩⟩
  · intro p hp
    obtain ⟨d, hd, first, rest, hnodes, rfl⟩ := parseWith_eq_ok_iff.mp hp
    have hterms : (Node.chain first rest).flatten = first :: rest :=
      Node.flatten_chain (not_isSeq_of_forall₂ hnodes)
    refine ⟨rfl, ?_, d, hd, ?_, ?_⟩
    · rw [Pattern.terms, hterms]
      rfl
    · intro d' hd'
      exact Derivation.chars_injective (hd'.trans hd.symm)
    · rw [Pattern.terms, hterms]
      exact hnodes

/-- A query with blanks around its terms is accepted, so it has a derivation, and only one. -/
theorem derivable_spaced_skip :
    let compile : String → Except Regex.CompileError (Frame → Bool) := fun text => .ok (· == text)
    ∃ d : Derivation, d.chars = "! .. \x7ba\x7d , .. .".toList ∧ d.Compiles compile ∧
      ∀ d' : Derivation, d'.chars = "! .. \x7ba\x7d , .. .".toList → d' = d := by
  intro compile
  have h : parseWith compile "! .. \x7ba\x7d , .. ." = .ok ⟨"! .. \x7ba\x7d , .. .",
      Node.chain (.absent (.skip (.leaf "a" (· == "a")))) [.skip .any]⟩ := by rfl
  obtain ⟨d, hd, hcompiles⟩ := (accepted_iff_derivable compile _).1.mp ⟨_, h⟩
  obtain ⟨-, -, d₁, -, hunique, -⟩ := (accepted_iff_derivable compile _).2 _ h
  refine ⟨d, hd, hcompiles, fun d' hd' => ?_⟩
  rw [hunique d' hd', hunique d hd]

end Grammar

end StackQuery.Query
