import StackQuery.Proofs.Query.Assignment
import StackQuery.Proofs.Query.Parsing
import Mathlib.Data.List.Forall2

/-!
# Queries that read the same in both directions

A query of atoms alone, all adjacent or all with any frames between them, matches a sample exactly when
some stretch of it, or some choice of frames in order, satisfies the atoms one by one. Said so, nothing of
the direction of the search is left: the query with its atoms in reverse matches the sample in reverse.
-/
namespace StackQuery.Query

def Fits (atoms : List Node) (frames : List Frame) : Prop :=
  List.Forall₂ (fun atom frame => atom.admits frame = true) atoms frames

/-- Frames that stand next to each other in a sample or, where others may stand between them, in order. -/
def Part (spread : Bool) (part frames : List Frame) : Prop :=
  if spread then part.Sublist frames else part <:+: frames

/-- Atoms as the terms of a query, adjacent or with any frames between them. -/
def joined (spread : Bool) : List Node → List Node
  | [] => []
  | first :: rest => first :: if spread then rest.map .skip else rest

variable {frames : Sample} {atom : Node} {atoms : List Node} {cursor i : Nat}

theorem Fits.reverse {part : List Frame} (h : Fits atoms part) : Fits atoms.reverse part.reverse :=
  List.rel_reverse h

theorem Part.reverse {spread : Bool} {part : List Frame} (h : Part spread part frames) :
    Part spread part.reverse frames.reverse := by
  cases spread with
  | true => exact List.Sublist.reverse h
  | false => exact List.reverse_infix.mpr h

/-- A frame satisfies an atom where it heads what is left of the sample. -/
theorem holds_iff : Holds frames atom i ↔
    ∃ frame, frames.drop i = frame :: frames.drop (i + 1) ∧ atom.admits frame = true := by
  constructor
  · rintro ⟨frame, hframe, hadmits⟩
    obtain ⟨hlt, rfl⟩ := List.getElem?_eq_some_iff.mp hframe
    exact ⟨_, List.drop_eq_getElem_cons hlt, hadmits⟩
  · rintro ⟨frame, hdrop, hadmits⟩
    refine ⟨frame, ?_, hadmits⟩
    rw [← List.head?_drop, hdrop, List.head?_cons]

theorem exists_placed_iff (hatoms : ∀ a ∈ atoms, a.isAtom = true) :
    (∃ indices, Placed frames atoms cursor indices) ↔
      ∃ part, part <+: frames.drop cursor ∧ Fits atoms part := by
  induction atoms generalizing cursor with
  | nil => exact ⟨fun _ => ⟨[], List.nil_prefix, .nil⟩, fun _ => ⟨[], .nil⟩⟩
  | cons atom rest ih =>
    have hrest := @ih (cursor + 1) fun a ha => hatoms a (List.mem_cons_of_mem _ ha)
    simp only [Placed.cons_atom_iff (hatoms atom List.mem_cons_self), holds_iff]
    constructor
    · rintro ⟨_, ⟨frame, hdrop, hadmits⟩, later, -, hplaced⟩
      obtain ⟨part, hpart, hfits⟩ := hrest.mp ⟨later, hplaced⟩
      refine ⟨frame :: part, ?_, .cons hadmits hfits⟩
      rw [hdrop]
      exact List.cons_prefix_cons.mpr ⟨rfl, hpart⟩
    · rintro ⟨_, ⟨left, hleft⟩, hfits⟩
      obtain ⟨frame, part, hadmits, hrestFits, rfl⟩ := List.forall₂_cons_left_iff.mp hfits
      have htail := congrArg List.tail hleft
      rw [List.tail_drop] at htail
      obtain ⟨later, hplaced⟩ := hrest.mpr ⟨part, ⟨left, htail⟩, hrestFits⟩
      refine ⟨_, ⟨frame, ?_, hadmits⟩, later, rfl, hplaced⟩
      rw [← htail, ← hleft]
      rfl

theorem exists_placed_skips_iff :
    (∃ indices, Placed frames (atoms.map .skip) cursor indices) ↔
      ∃ part, part.Sublist (frames.drop cursor) ∧ Fits atoms part := by
  induction atoms generalizing cursor with
  | nil => exact ⟨fun _ => ⟨[], List.nil_sublist _, .nil⟩, fun _ => ⟨[], .nil⟩⟩
  | cons atom rest ih =>
    simp only [List.map_cons, Placed.cons_skip_iff]
    constructor
    · rintro ⟨_, i, later, hle, hholds, -, hplaced⟩
      obtain ⟨frame, hdrop, hadmits⟩ := holds_iff.mp hholds
      obtain ⟨part, hpart, hfits⟩ := ih.mp ⟨later, hplaced⟩
      refine ⟨frame :: part, ?_, .cons hadmits hfits⟩
      have hsub : (frames.drop i).Sublist (frames.drop cursor) := List.drop_sublist_drop_left _ hle
      rw [hdrop] at hsub
      exact (hpart.cons_cons frame).trans hsub
    · rintro ⟨_, hpart, hfits⟩
      obtain ⟨frame, part, hadmits, hrestFits, rfl⟩ := List.forall₂_cons_left_iff.mp hfits
      obtain ⟨before, after, hdrop, hmem, hpart⟩ := List.cons_sublist_iff.mp hpart
      obtain ⟨skipped, between, rfl⟩ := List.append_of_mem hmem
      have hi : frames.drop (cursor + skipped.length) = frame :: (between ++ after) := by
        rw [← List.drop_drop, hdrop, List.append_assoc, List.drop_left, List.cons_append]
      have htail : frames.drop (cursor + skipped.length + 1) = between ++ after := by
        rw [← List.tail_drop, hi, List.tail_cons]
      have hsub : part.Sublist (frames.drop (cursor + skipped.length + 1)) :=
        htail ▸ hpart.trans (List.sublist_append_right between after)
      obtain ⟨later, hplaced⟩ := ih.mpr ⟨part, hsub, hrestFits⟩
      have hholds : Holds frames atom (cursor + skipped.length) := holds_iff.mpr ⟨frame, htail ▸ hi, hadmits⟩
      exact ⟨_, _, later, Nat.le_add_right _ _, hholds, rfl, hplaced⟩

/-- The atoms of a query have places from some start on exactly where a part of the sample satisfies them. -/
theorem exists_placed_joined_iff {spread : Bool} (hatoms : ∀ a ∈ atom :: atoms, a.isAtom = true) :
    (∃ start indices, Placed frames (joined spread (atom :: atoms)) start indices) ↔
      ∃ part, Part spread part frames ∧ Fits (atom :: atoms) part := by
  cases spread with
  | false =>
    change (∃ start indices, Placed frames (atom :: atoms) start indices) ↔
      ∃ part, part <:+: frames ∧ Fits (atom :: atoms) part
    simp only [exists_placed_iff hatoms, List.infix_iff_prefix_suffix]
    constructor
    · rintro ⟨start, part, hpart, hfits⟩
      exact ⟨part, ⟨_, hpart, List.drop_suffix start frames⟩, hfits⟩
    · rintro ⟨part, ⟨rest, hpart, hrest⟩, hfits⟩
      rw [List.suffix_iff_eq_drop] at hrest
      exact ⟨_, part, hrest ▸ hpart, hfits⟩
  | true =>
    -- The first atom may stand anywhere, as it may after a skip from the start of the sample.
    have hfirst : (∃ start indices, Placed frames (joined true (atom :: atoms)) start indices) ↔
        ∃ indices, Placed frames ((atom :: atoms).map .skip) 0 indices := by
      simp only [joined, if_true, List.map_cons, Placed.cons_skip_iff,
        Placed.cons_atom_iff (hatoms atom List.mem_cons_self)]
      constructor
      · rintro ⟨start, _, hholds, later, -, hplaced⟩
        exact ⟨_, start, later, Nat.zero_le start, hholds, rfl, hplaced⟩
      · rintro ⟨_, start, later, -, hholds, -, hplaced⟩
        exact ⟨start, _, hholds, later, rfl, hplaced⟩
    rw [hfirst, exists_placed_skips_iff, List.drop_zero]
    rfl

theorem isTerm_of_joined (spread : Bool) (hatoms : ∀ a ∈ atoms, a.isAtom = true) :
    ∀ t ∈ joined spread atoms, t.IsTerm := by
  cases atoms with
  | nil => simp [joined]
  | cons first rest =>
    intro t ht
    rcases List.mem_cons.mp ht with rfl | ht
    · exact .atom (hatoms t List.mem_cons_self)
    · cases spread with
      | false => exact .atom (hatoms t (List.mem_cons_of_mem _ ht))
      | true =>
        obtain ⟨a, ha, rfl⟩ := List.mem_map.mp ht
        exact .skip (hatoms a (List.mem_cons_of_mem _ ha))

/-- A query of joined atoms matches where a part of the sample satisfies them. -/
theorem evaluate_joined {p : Pattern} {spread : Bool} (hatoms : ∀ a ∈ atoms, a.isAtom = true)
    (hterms : p.terms = joined spread atoms) (frames : Sample) :
    ∃ r, evaluate p frames = .ok r ∧
      (r.matched = true ↔ ∃ part, Part spread part frames ∧ Fits atoms part) := by
  have hisTerm : ∀ t ∈ p.terms, t.IsTerm := hterms ▸ isTerm_of_joined _ hatoms
  have hp : p.Grounded := fun t ht => (hisTerm t ht).takesFrame
  obtain ⟨first, rest, rfl⟩ : ∃ first rest, atoms = first :: rest := by
    cases atoms with
    | nil => exact absurd hterms p.root.flatten_ne_nil
    | cons first rest => exact ⟨first, rest, rfl⟩
  have hfirst : first.isAtom = true := hatoms first List.mem_cons_self
  have hc : p.consumes = true :=
    Pattern.consumes_iff.mpr ⟨first, by simp [hterms, joined], Node.not_isAbsent_of_isAtom hfirst⟩
  rw [← exists_placed_joined_iff hatoms, ← hterms]
  obtain ⟨r, hr⟩ : ∃ r, evaluate p frames = .ok r := by
    obtain hr | ⟨start, stop, hr, -⟩ := evaluate_of_grounded hp frames
    · exact ⟨_, hr⟩
    · exact ⟨_, hr⟩
  refine ⟨r, hr, fun hmatched => ?_, ?_⟩
  · obtain ⟨start, stop, -, -, hspan, -⟩ := spanAt_of_matched hp hc hr hmatched
    obtain ⟨indices, hplaced, -⟩ := placed_of_spanAt hisTerm hspan
    exact ⟨start, indices, hplaced⟩
  · rintro ⟨start, indices, hplaced⟩
    have hlt : start < frames.length := by
      rw [hterms, joined, Placed.cons_atom_iff hfirst] at hplaced
      exact hplaced.1.lt_length
    obtain ⟨block, skipped, hblock, hsplit⟩ : ∃ block skipped : List Node,
        (∀ a ∈ block, a.isAtom = true) ∧ p.terms = block ++ skipped.map .skip := by
      cases spread with
      | false => exact ⟨first :: rest, [], hatoms, by simp [hterms, joined]⟩
      | true => exact ⟨[first], rest, by simpa using hfirst, by simp [hterms, joined]⟩
    rw [hsplit] at hplaced
    obtain ⟨span, hspan, -⟩ := exists_spanAt_block hblock hplaced
    obtain ⟨start, stop, hmatched⟩ := matched_of_spanAt hp hc hlt (hsplit ▸ hspan)
    rw [hr] at hmatched
    cases hmatched
    rfl

theorem evaluate_joined_reverse {p q : Pattern} {spread : Bool} (hatoms : ∀ a ∈ atoms, a.isAtom = true)
    (hp : p.terms = joined spread atoms) (hq : q.terms = joined spread atoms.reverse) (frames : Sample) :
    ∃ r s, evaluate p frames = .ok r ∧ evaluate q frames.reverse = .ok s ∧ s.matched = r.matched := by
  obtain ⟨r, hr, hmatched⟩ := evaluate_joined hatoms hp frames
  obtain ⟨s, hs, hmatched'⟩ :=
    evaluate_joined (fun a ha => hatoms a (List.mem_reverse.mp ha)) hq frames.reverse
  refine ⟨r, s, hr, hs, ?_⟩
  rw [Bool.eq_iff_iff, hmatched, hmatched']
  constructor
  · rintro ⟨part, hpart, hfits⟩
    have hpart' := hpart.reverse
    have hfits' := hfits.reverse
    rw [List.reverse_reverse] at hpart' hfits'
    exact ⟨part.reverse, hpart', hfits'⟩
  · rintro ⟨part, hpart, hfits⟩
    exact ⟨part.reverse, hpart.reverse, hfits.reverse⟩

namespace Grammar

variable {compile : String → Except Regex.CompileError (Frame → Bool)} {spread : Bool} {atoms : List Atom}
  {query : String}

/-- The terms of atoms joined by commas, or by dots. -/
def joinedShapes (spread : Bool) : List Atom → List Shape
  | [] => []
  | first :: rest => ⟨false, false, first⟩ :: rest.map fun atom => ⟨false, spread, atom⟩

/-- The query is a text of atoms joined by commas, or by dots, with any blanks between them. -/
def Joins (spread : Bool) (atoms : List Atom) (query : String) : Prop :=
  ∃ d : Derivation, d.chars = query.toList ∧ d.shapes = joinedShapes spread atoms

theorem Atom.Denotes.isAtom {atom : Atom} {node : Node} (h : atom.Denotes compile node) :
    node.isAtom = true := by
  cases h <;> rfl

theorem Atom.Denotes.unique {atom : Atom} {node node' : Node} (h : atom.Denotes compile node)
    (h' : atom.Denotes compile node') : node = node' := by
  cases h with
  | any => cases h'; rfl
  | leaf compiled =>
    cases h' with
    | leaf compiled' =>
      rw [compiled] at compiled'
      cases compiled'
      rfl

theorem Shape.denotes_plain_iff {atom : Atom} {node : Node} :
    Shape.Denotes compile ⟨false, false, atom⟩ node ↔ atom.Denotes compile node := by
  constructor
  · rintro ⟨inner⟩
    exact inner
  · exact .plain

theorem Shape.denotes_skip_iff {atom : Atom} {node : Node} :
    Shape.Denotes compile ⟨false, true, atom⟩ node ↔
      ∃ inner, atom.Denotes compile inner ∧ node = .skip inner := by
  constructor
  · intro h
    cases h with
    | skip inner => exact ⟨_, inner, rfl⟩
  · rintro ⟨inner, hinner, rfl⟩
    exact .skip hinner

theorem forall₂_denotes_iff {nodes : List Node} :
    List.Forall₂ (Shape.Denotes compile) (atoms.map fun atom => ⟨false, spread, atom⟩) nodes ↔
      ∃ inners, List.Forall₂ (Atom.Denotes compile) atoms inners ∧
        nodes = if spread then inners.map .skip else inners := by
  rw [List.forall₂_map_left_iff]
  cases spread with
  | false => simp [Shape.denotes_plain_iff]
  | true =>
    simp only [Shape.denotes_skip_iff, if_true]
    constructor
    · intro h
      induction h with
      | nil => exact ⟨[], .nil, rfl⟩
      | cons hfirst _ ih =>
        obtain ⟨inner, hinner, rfl⟩ := hfirst
        obtain ⟨inners, hinners, rfl⟩ := ih
        exact ⟨inner :: inners, .cons hinner hinners, rfl⟩
    · rintro ⟨inners, hinners, rfl⟩
      induction hinners with
      | nil => exact .nil
      | cons hinner _ ih => exact .cons ⟨_, hinner, rfl⟩ ih

/-- A query of joined atoms is accepted where its atoms denote nodes, and its terms are these nodes. -/
theorem Joins.parseWith_iff (h : Joins spread atoms query) {p : Pattern} :
    parseWith compile query = .ok p ↔
      ∃ first rest, List.Forall₂ (Atom.Denotes compile) atoms (first :: rest) ∧
        p = ⟨query, Node.chain first (if spread then rest.map .skip else rest)⟩ := by
  obtain ⟨d, hd, hshapes⟩ := h
  have hparse : parseWith compile query = .ok p ↔ ∃ first rest,
      List.Forall₂ (Shape.Denotes compile) d.shapes (first :: rest) ∧ p = ⟨query, Node.chain first rest⟩ := by
    rw [parseWith_eq_ok_iff]
    constructor
    · rintro ⟨d', hd', hnodes⟩
      rwa [Derivation.chars_injective (hd'.trans hd.symm)] at hnodes
    · exact fun hnodes => ⟨d, hd, hnodes⟩
  rw [hparse, hshapes]
  cases atoms with
  | nil => simp [joinedShapes]
  | cons atom others =>
    simp only [joinedShapes, List.forall₂_cons, Shape.denotes_plain_iff, forall₂_denotes_iff]
    constructor
    · rintro ⟨first, _, ⟨hfirst, rest, hrest, rfl⟩, rfl⟩
      exact ⟨first, rest, ⟨hfirst, hrest⟩, rfl⟩
    · rintro ⟨first, rest, ⟨hfirst, hrest⟩, rfl⟩
      exact ⟨first, _, ⟨hfirst, rest, hrest, rfl⟩, rfl⟩

theorem isAtom_of_forall₂ {nodes : List Node} (h : List.Forall₂ (Atom.Denotes compile) atoms nodes) :
    ∀ n ∈ nodes, n.isAtom = true := by
  induction h with
  | nil => simp
  | cons hfirst _ ih =>
    intro n hn
    rcases List.mem_cons.mp hn with rfl | hn
    · exact hfirst.isAtom
    · exact ih n hn

theorem Joins.exists_terms (h : Joins spread atoms query) {p : Pattern} (hp : parseWith compile query = .ok p) :
    ∃ nodes, List.Forall₂ (Atom.Denotes compile) atoms nodes ∧ p.terms = joined spread nodes := by
  obtain ⟨first, rest, hnodes, rfl⟩ := h.parseWith_iff.mp hp
  have hatoms := isAtom_of_forall₂ hnodes
  refine ⟨first :: rest, hnodes, Node.flatten_chain fun t ht => ?_⟩
  exact (isTerm_of_joined spread hatoms t ht).not_isSeq

/-- A query of the atoms in reverse is accepted as well, and its terms are the same nodes in reverse. -/
theorem Joins.exists_reverse {reversed : String} (h : Joins spread atoms query)
    (hr : Joins spread atoms.reverse reversed) {p : Pattern} (hp : parseWith compile query = .ok p) :
    ∃ q nodes, parseWith compile reversed = .ok q ∧ (∀ n ∈ nodes, n.isAtom = true) ∧
      p.terms = joined spread nodes ∧ q.terms = joined spread nodes.reverse := by
  obtain ⟨nodes, hnodes, hterms⟩ := h.exists_terms hp
  have hback : List.Forall₂ (Atom.Denotes compile) atoms.reverse nodes.reverse := List.rel_reverse hnodes
  obtain ⟨first, rest, hfirst⟩ : ∃ first rest, nodes.reverse = first :: rest := by
    refine List.exists_cons_of_ne_nil fun hnil => ?_
    rw [List.reverse_eq_nil_iff.mp hnil] at hterms
    exact p.root.flatten_ne_nil hterms
  have hq := hr.parseWith_iff.mpr ⟨first, rest, hfirst ▸ hback, rfl⟩
  obtain ⟨nodes', hnodes', hterms'⟩ := hr.exists_terms hq
  have hsame : nodes' = nodes.reverse :=
    List.right_unique_forall₂' (fun _ _ _ hn hn' => hn.unique hn') hnodes' hback
  exact ⟨_, nodes, hq, isAtom_of_forall₂ hnodes, hterms, hsame ▸ hterms'⟩

end Grammar

end StackQuery.Query
