import StackQuery.Query.Match

/-!
# Chains and trees

A pattern is a tree, and its terms are matched one after the other. How sequences are nested does not
matter: matching the terms from a start on succeeds exactly if the tree matches there, and takes the
frames from the start up to the cursor after the tree. So a pattern may be nested to the right at will.
-/
namespace StackQuery.Query

variable {frames : Sample} {start : Nat}

namespace Node

theorem not_isSeq_of_mem_flatten {node term : Node} (h : term ∈ node.flatten) : term.isSeq = false := by
  induction node with
  | seq left right ihl ihr =>
    rw [flatten, List.mem_append] at h
    exact h.elim ihl ihr
  | _ =>
    obtain rfl := List.mem_singleton.mp h
    rfl

/-- The terms of a tree can be nested to the right, and are its terms then. -/
theorem exists_ofTerms {terms : List Node} (hne : terms ≠ []) (h : ∀ t ∈ terms, t.isSeq = false) :
    ∃ chained, ofTerms terms = .ok chained ∧ chained.flatten = terms := by
  obtain ⟨first, rest, rfl⟩ := List.exists_cons_of_ne_nil hne
  exact ⟨chain first rest, rfl, flatten_chain h⟩

end Node

theorem advanceAll_append (xs ys : List Node) (r : Reach) :
    advanceAll frames (xs ++ ys) r = (advanceAll frames xs r).bind (advanceAll frames ys) := by
  induction xs generalizing r with
  | nil => rfl
  | cons x xs ih =>
    rw [List.cons_append, advanceAll, advanceAll]
    cases advance frames x r with
    | none => rfl
    | some r₁ => exact ih r₁

/-- What has been taken begins at a start and ends at the cursor; if nothing has been taken, the cursor
is still at the start. -/
structure Reach.TakesFrom (start : Nat) (r : Reach) : Prop where
  first : r.first.getD r.cursor = start
  last : r.last = r.cursor

theorem Reach.takesFrom_start (start : Nat) : (Reach.start start).TakesFrom start := ⟨rfl, rfl⟩

/-- One term that is no sequence moves the cursor as it does on its own. -/
theorem advance_of_takesFrom {r : Reach} (h : r.TakesFrom start) (term : Node) :
    (advance frames term r).map Reach.cursor = matchAt frames term r.cursor ∧
      ∀ r', advance frames term r = some r' → r'.TakesFrom start := by
  rw [advance]
  cases hmatch : matchAt frames term r.cursor with
  | none => exact ⟨rfl, nofun⟩
  | some after =>
    dsimp only
    split
    · next habsent =>
      -- An absence that holds leaves the cursor where it is.
      cases term with
      | absent inner =>
        simp only [matchAt, Option.ite_none_right_eq_some, Option.some.injEq] at hmatch
        obtain ⟨-, rfl⟩ := hmatch
        refine ⟨rfl, ?_⟩
        rintro _ ⟨⟩
        exact h
      | _ => cases habsent
    · refine ⟨rfl, ?_⟩
      rintro _ ⟨⟩
      exact ⟨h.first, rfl⟩

theorem advanceAll_singleton (term : Node) (r : Reach) : advanceAll frames [term] r = advance frames term r := by
  rw [advanceAll]
  cases advance frames term r <;> rfl

theorem advanceAll_flatten_of_not_isSeq {r : Reach} (h : r.TakesFrom start) {term : Node}
    (hterm : term.isSeq = false) :
    (advanceAll frames term.flatten r).map Reach.cursor = matchAt frames term r.cursor ∧
      ∀ r', advanceAll frames term.flatten r = some r' → r'.TakesFrom start := by
  rw [Node.flatten_of_not_isSeq hterm, advanceAll_singleton]
  exact advance_of_takesFrom h term

theorem advanceAll_flatten {r : Reach} (h : r.TakesFrom start) (node : Node) :
    (advanceAll frames node.flatten r).map Reach.cursor = matchAt frames node r.cursor ∧
      ∀ r', advanceAll frames node.flatten r = some r' → r'.TakesFrom start := by
  induction node generalizing r with
  | leaf | any | skip | absent => exact advanceAll_flatten_of_not_isSeq h rfl
  | seq left right ihl ihr =>
    obtain ⟨hleft, hfrom⟩ := ihl h
    rw [Node.flatten, advanceAll_append, matchAt, ← hleft]
    cases hr₁ : advanceAll frames left.flatten r with
    | none =>
      refine ⟨rfl, fun r' hr' => ?_⟩
      cases hr'
    | some r₁ => exact ihr (hfrom r₁ hr₁)

/-- The terms of a tree match from a start on exactly if the tree matches there, and they take the frames
up to the cursor after it. -/
theorem spanAt_flatten (node : Node) (frames : Sample) (start : Nat) :
    spanAt node.flatten frames start = (matchAt frames node start).map fun stop => (start, stop) := by
  obtain ⟨hcursor, hfrom⟩ := @advanceAll_flatten frames start _ (Reach.takesFrom_start start) node
  change _ = matchAt frames node start at hcursor
  rw [spanAt, ← hcursor, Option.map_map]
  cases hr : advanceAll frames node.flatten (.start start) with
  | none => rfl
  | some r =>
    obtain ⟨hfirst, hlast⟩ := hfrom r hr
    have hstart : r.first.getD start = start := by
      cases hr : r.first with
      | none => rfl
      | some first => simpa [hr] using hfirst
    simp [hstart, hlast]

/-- How a pattern is nested does not matter. The terms of a tree match from a start on exactly if the tree
matches there, and take the frames from the start up to the cursor after it. So patterns of one text with
the same terms give the same result on every sample, among them the pattern with its terms nested to the
right; and terms that are no sequences are the terms of the pattern made of them. -/
theorem nesting_is_irrelevant :
    (∀ (root : Node) (frames : Sample) (start : Nat),
      spanAt root.flatten frames start = (matchAt frames root start).map fun stop => (start, stop)) ∧
    (∀ (text : String) (a b : Node), a.flatten = b.flatten →
      ∀ frames, evaluate ⟨text, a⟩ frames = evaluate ⟨text, b⟩ frames) ∧
    (∀ (text : String) (root : Node), ∃ chained, ofTerms root.flatten = .ok chained ∧
      ∀ frames, evaluate ⟨text, chained⟩ frames = evaluate ⟨text, root⟩ frames) ∧
    ∀ terms : List Node, terms ≠ [] → (∀ t ∈ terms, t.isSeq = false) →
      ∃ chained, ofTerms terms = .ok chained ∧ chained.flatten = terms := by
  have hsame {text : String} {a b : Node} (h : a.flatten = b.flatten) (frames : Sample) :
      evaluate ⟨text, a⟩ frames = evaluate ⟨text, b⟩ frames := by
    have hterms : (⟨text, a⟩ : Pattern).terms = (⟨text, b⟩ : Pattern).terms := h
    unfold evaluate Pattern.consumes
    rw [hterms]
  refine ⟨spanAt_flatten, fun _ _ _ => hsame, fun text root => ?_, fun _ => Node.exists_ofTerms⟩
  obtain ⟨chained, hchained, hflatten⟩ :=
    Node.exists_ofTerms root.flatten_ne_nil fun _ => Node.not_isSeq_of_mem_flatten
  exact ⟨chained, hchained, hsame hflatten⟩

/-- A sequence nested to the left that begins and ends with an absence: its terms take the second frame
from a start at it, as the tree does, and nested to the right it gives the same result. -/
theorem nesting_is_irrelevant_left :
    let tree : Node := .seq (.seq (.absent (.leaf "a" (· == "a"))) .any) (.absent (.skip (.leaf "b" (· == "b"))))
    let chained : Node := .seq (.absent (.leaf "a" (· == "a"))) (.seq .any (.absent (.skip (.leaf "b" (· == "b")))))
    spanAt tree.flatten ["a", "c", "d"] 1 = some (1, 2) ∧
      evaluate ⟨"t", tree⟩ ["a", "c", "d"] = evaluate ⟨"t", chained⟩ ["a", "c", "d"] ∧
      evaluate ⟨"t", chained⟩ ["a", "c", "d"] = .ok ⟨true, some (1, 2)⟩ ∧
      ∃ node, ofTerms tree.flatten = .ok node ∧ node.flatten = tree.flatten := by
  intro tree chained
  obtain ⟨hspan, hsame, -, hchain⟩ := nesting_is_irrelevant
  refine ⟨(hspan tree _ 1).trans (by rfl), hsame "t" tree chained rfl _, by rfl, ?_⟩
  exact hchain tree.flatten tree.flatten_ne_nil fun _ => Node.not_isSeq_of_mem_flatten

end StackQuery.Query
