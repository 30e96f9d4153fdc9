import StackQuery.Proofs.Query.Parsing

/-!
# Reading a printed query

A query is printed without blanks, and without a comma before a skip. What is printed is read back as the
same query exactly when no dot that is an atom of its own comes right before a skip: there the dots run
together, and the printed text is rejected.
-/
namespace StackQuery.Query

/-- The term ends in a dot that would be read together with a dot after it. A skip prefix of the first
term is read with its atom; the dots of a later skip join it to the term before. -/
def Node.endsOpen (leading : Bool) : Node → Bool
  | .any => true
  | .absent .any => true
  | .skip .any => !leading
  | _ => false

/-- No term that ends in an open dot stands before a skip. -/
def dotsApart : (leading : Bool) → List Node → Bool
  | leading, t :: next :: rest =>
    !(t.endsOpen leading && next.isSkip) && dotsApart false (next :: rest)
  | _, _ => true

namespace Grammar

def noBlanks : Blanks := ⟨[], by simp⟩

/-- The term of a shape, without blanks. -/
def Shape.term (s : Shape) : Term :=
  ⟨if s.negated then some noBlanks else none, if s.skipped then some noBlanks else none, s.atom⟩

def Shape.isSkip (s : Shape) : Bool := !s.negated && s.skipped

/-- The link of a shape, without blanks. A skip is joined by its own dots. -/
def Shape.link (s : Shape) : Link :=
  ⟨if s.isSkip then .dots noBlanks s.atom else .comma noBlanks s.term, noBlanks⟩

theorem Shape.shape_term (s : Shape) : s.term.shape = s := by
  obtain ⟨negated, skipped, atom⟩ := s
  cases negated <;> cases skipped <;> rfl

theorem Shape.shape_link (s : Shape) : s.link.joint.shape = s := by
  obtain ⟨negated, skipped, atom⟩ := s
  cases negated <;> cases skipped <;> rfl

theorem Shape.chars_of_isSkip {s : Shape} (h : s.isSkip = true) : s.term.chars = '.' :: '.' :: s.atom.chars := by
  obtain ⟨negated, skipped, atom⟩ := s
  cases negated <;> cases skipped <;> first | rfl | cases h

theorem Shape.chars_link (s : Shape) :
    s.link.joint.chars = if s.isSkip then s.term.chars else ',' :: s.term.chars := by
  obtain ⟨negated, skipped, atom⟩ := s
  cases negated <;> cases skipped <;> rfl

variable {compile : String → Except Regex.CompileError (Frame → Bool)}

theorem Atom.Denotes.toChars {atom : Atom} {node : Node} (h : atom.Denotes compile node) :
    node.toChars = atom.chars := by
  cases h with
  | any => rfl
  | leaf compiled => simp [Node.toChars, chars]

namespace Shape.Denotes

variable {s : Shape} {node : Node}

theorem toChars (h : s.Denotes compile node) : node.toChars = s.term.chars := by
  cases h with
  | plain inner => exact inner.toChars
  | skip inner => exact congrArg (fun cs => '.' :: '.' :: cs) inner.toChars
  | absent inner =>
    cases inner with
    | plain inner => exact congrArg (fun cs => '!' :: cs) inner.toChars
    | skip inner => exact congrArg (fun cs => '!' :: '.' :: '.' :: cs) inner.toChars

theorem isSkip (h : s.Denotes compile node) : node.isSkip = s.isSkip := by
  cases h with
  | plain inner => cases inner <;> rfl
  | skip | absent => rfl

theorem endsOpen_leading (h : s.Denotes compile node) : node.endsOpen true = s.term.isOpen := by
  obtain ⟨negated, skipped, atom⟩ := s
  obtain ⟨inner, hatom, rfl⟩ := (denotes_iff 0).mp h
  cases negated <;> cases skipped <;> cases hatom <;> rfl

theorem endsOpen_later (h : s.Denotes compile node) : node.endsOpen false = s.link.joint.isOpen := by
  obtain ⟨negated, skipped, atom⟩ := s
  obtain ⟨inner, hatom, rfl⟩ := (denotes_iff 0).mp h
  cases negated <;> cases skipped <;> cases hatom <;> rfl

end Shape.Denotes

def printed (shapes : List Shape) : List Char := linksChars (shapes.map Shape.link)

@[simp] theorem printed_nil : printed [] = [] := rfl

theorem printed_cons (s : Shape) (rest : List Shape) :
    printed (s :: rest) = s.link.joint.chars ++ printed rest := by
  rw [printed, List.map_cons, linksChars_cons]
  rfl

/-- A chain is printed as its first term and the links of the others. -/
theorem toChars_chain {s : Shape} {shapes : List Shape} {first : Node} {rest : List Node}
    (hfirst : s.Denotes compile first) (hrest : List.Forall₂ (Shape.Denotes compile) shapes rest) :
    (Node.chain first rest).toChars = s.term.chars ++ printed shapes := by
  induction hrest generalizing s first with
  | nil => simpa [Node.chain] using hfirst.toChars
  | @cons s' next shapes rest hnext hrest ih =>
    have hleading : (Node.chain next rest).leading = next := by
      have hflat := Node.leading_eq_head (Node.chain next rest)
      rw [Node.flatten_chain (not_isSeq_of_forall₂ (.cons hnext hrest))] at hflat
      exact (Option.some.inj hflat).symm
    rw [Node.chain, Node.toChars, hleading, ih hnext, hfirst.toChars, hnext.isSkip, printed_cons,
      Shape.chars_link]
    cases s'.isSkip <;> simp

theorem mayFollow_printed {isOpen : Bool} {s : Shape} {next : Node} (h : s.Denotes compile next)
    (hapart : (isOpen && next.isSkip) = false) (rest : List Shape) :
    MayFollow isOpen (printed (s :: rest)) := by
  intro hopen hdot
  rw [hopen, Bool.true_and, h.isSkip] at hapart
  rw [printed_cons, Shape.chars_link, hapart] at hdot
  cases hdot

theorem mayFollow_nil (isOpen : Bool) : MayFollow isOpen [] := by
  intro _ hdot
  cases hdot

theorem spaced_of_dotsApart {shapes : List Shape} {nodes : List Node}
    (h : List.Forall₂ (Shape.Denotes compile) shapes nodes) (ha : dotsApart false nodes = true) :
    Spaced (shapes.map Shape.link) := by
  induction h with
  | nil => trivial
  | @cons s node shapes rest hnode hrest ih =>
    cases hrest with
    | nil => exact ⟨mayFollow_nil _, trivial⟩
    | @cons s' next shapes rest hnext hrest =>
      simp only [dotsApart, Bool.and_eq_true, Bool.not_eq_true'] at ha
      rw [hnode.endsOpen_later] at ha
      exact ⟨mayFollow_printed hnext ha.1 shapes, ih ha.2⟩

/-- Terms whose dots stand apart are printed as a text that they are read from. -/
theorem exists_tight_derivation {s : Shape} {shapes : List Shape} {first : Node} {rest : List Node}
    (hfirst : s.Denotes compile first) (hrest : List.Forall₂ (Shape.Denotes compile) shapes rest)
    (ha : dotsApart true (first :: rest) = true) :
    ∃ d : Derivation, d.chars = (Node.chain first rest).toChars ∧ d.shapes = s :: shapes := by
  have hspaced : MayFollow s.term.isOpen (printed shapes) ∧ Spaced (shapes.map Shape.link) := by
    cases hrest with
    | nil => exact ⟨mayFollow_nil _, trivial⟩
    | @cons s' next shapes rest hnext hrest =>
      simp only [dotsApart, Bool.and_eq_true, Bool.not_eq_true'] at ha
      rw [hfirst.endsOpen_leading] at ha
      exact ⟨mayFollow_printed hnext ha.1 shapes, spaced_of_dotsApart (.cons hnext hrest) ha.2⟩
  refine ⟨⟨noBlanks, s.term, noBlanks, shapes.map Shape.link, hspaced.1, hspaced.2⟩, ?_, ?_⟩
  · rw [toChars_chain hfirst hrest]
    rfl
  · simp only [Derivation.shapes, List.map_map, Function.comp_def, Shape.shape_term, Shape.shape_link,
      List.map_id']

variable (compile) in
/-- An outline that a fault ends, after terms that denote nodes. -/
def Broken (o : Outline) : Prop :=
  ∃ fault column shapes nodes, o.2 = some (fault, column) ∧
    List.Forall₂ HasShape o.1 shapes ∧ List.Forall₂ (Shape.Denotes compile) shapes nodes

section
variable {state : Expecting} {n : Nat} {c : Char} {text : List Char}

theorem broken_stop {fault : Fault} {column : Nat} (h : state.step n c = Expecting.stop fault column) :
    Broken compile (state.read n (c :: text)) := by
  refine ⟨fault, column, [], [], read_stop h, ?_, .nil⟩
  simp only [Expecting.read, h, Expecting.stop, Option.toList_none]
  exact .nil

theorem Broken.precede {o : Outline} {s : Shape} {node : Node} (h : Broken compile o)
    (hs : s.Denotes compile node) (column : Nat) : Broken compile (precede (s.raw column) o) := by
  obtain ⟨fault, place, shapes, nodes, hfault, hraw, hnodes⟩ := h
  exact ⟨fault, place, s :: shapes, node :: nodes, hfault, .cons ⟨column, rfl⟩ hraw, .cons hs hnodes⟩

/-- An atom after a joining skip of a dot: it is a second atom. -/
theorem broken_joinedDot (dot : Nat) (atom : Atom) :
    Broken compile ((Expecting.joinedDot dot).read n (atom.chars ++ text)) := by
  cases atom with
  | any => exact broken_stop rfl
  | leaf body =>
    rw [read_joinedDot dot n (by simp [Atom.chars])]
    exact (broken_stop rfl).precede (s := ⟨false, true, .any⟩) (.skip .any) 0

theorem broken_atom (atom : Atom) (shapes : List Shape) :
    Broken compile (Expecting.separator.read n (atom.chars ++ printed shapes)) := by
  cases atom with
  | leaf body => exact broken_stop rfl
  | any =>
    rw [Atom.chars, List.singleton_append, read_go rfl]
    cases shapes with
    | nil => exact ⟨.expectedSeparator, n, [], [], rfl, .nil, .nil⟩
    | cons s rest =>
      rw [printed_cons, Shape.chars_link]
      cases hs : s.isSkip with
      | false => exact broken_stop rfl
      | true =>
        rw [if_pos rfl, Shape.chars_of_isSkip hs, List.cons_append, List.cons_append, read_go rfl,
          read_go rfl]
        exact broken_joinedDot _ s.atom

/-- An open dot before a skip where a term begins: its first two dots are read as a skip prefix. -/
theorem broken_dots {negated : Bool} (hb : Begins negated state) (atom : Atom) (shapes : List Shape) :
    Broken compile (state.read n ('.' :: '.' :: '.' :: (atom.chars ++ printed shapes))) := by
  rw [read_go (hb.dot n), read_go rfl, read_end rfl]
  have hrest : Broken compile (Expecting.separator.read (n + 1 + 1 + 1) (atom.chars ++ printed shapes)) :=
    broken_atom atom shapes
  cases negated with
  | false => exact hrest.precede (s := ⟨false, true, .any⟩) (.skip .any) 0
  | true => exact hrest.precede (s := ⟨true, true, .any⟩) (.absent (.skip .any)) 0

theorem broken_term (comma : Option Nat) {s s' : Shape} (hopen : s.term.isOpen = true)
    (hskip : s'.isSkip = true) (shapes : List Shape) :
    Broken compile ((Expecting.term comma).read n (s.term.chars ++ printed (s' :: shapes))) := by
  obtain ⟨negated, skipped, atom⟩ := s
  have hshape : skipped = false ∧ atom = .any := by
    cases skipped <;> cases atom <;> first | exact ⟨rfl, rfl⟩ | cases hopen
  obtain ⟨rfl, rfl⟩ := hshape
  rw [printed_cons, Shape.chars_link, if_pos hskip, Shape.chars_of_isSkip hskip]
  cases negated with
  | false => exact broken_dots (begins_term comma) s'.atom shapes
  | true =>
    change Broken compile ((Expecting.term comma).read n ('!' :: '.' :: '.' :: '.' :: (s'.atom.chars ++ _)))
    rw [read_go rfl]
    exact broken_dots (begins_negation n) s'.atom shapes

theorem broken_joint {s s' : Shape} (hopen : s.link.joint.isOpen = true) (hskip : s'.isSkip = true)
    (shapes : List Shape) :
    Broken compile (Expecting.separator.read n (s.link.joint.chars ++ printed (s' :: shapes))) := by
  rw [Shape.chars_link]
  cases hs : s.isSkip with
  | false =>
    have hterm : s.term.isOpen = true := by simpa [Shape.link, hs, Joint.isOpen] using hopen
    rw [if_neg (by simp), List.cons_append, read_go rfl]
    exact broken_term (some n) hterm hskip shapes
  | true =>
    have hatom : s.atom = .any := by
      cases ha : s.atom with
      | any => rfl
      | leaf body => simp [Shape.link, hs, Joint.isOpen, ha, Atom.isAny] at hopen
    rw [if_pos rfl, Shape.chars_of_isSkip hs, hatom, printed_cons, Shape.chars_link, if_pos hskip,
      Shape.chars_of_isSkip hskip]
    change Broken compile (Expecting.separator.read n ('.' :: '.' :: '.' :: '.' :: _))
    rw [read_go rfl, read_go rfl, read_go rfl]
    exact broken_stop rfl

theorem broken_printed {shapes : List Shape} {nodes : List Node}
    (h : List.Forall₂ (Shape.Denotes compile) shapes nodes) (ha : dotsApart false nodes = false) (n : Nat) :
    Broken compile (Expecting.separator.read n (printed shapes)) := by
  induction h generalizing n with
  | nil => cases ha
  | @cons s node shapes nodes hnode hrest ih =>
    cases hrest with
    | nil => cases ha
    | @cons s' next shapes nodes hnext hrest =>
      rw [printed_cons]
      cases hclash : node.endsOpen false && next.isSkip with
      | true =>
        rw [Bool.and_eq_true, hnode.endsOpen_later, hnext.isSkip] at hclash
        exact broken_joint hclash.1 hclash.2 shapes
      | false =>
        rw [dotsApart, hclash, Bool.not_false, Bool.true_and] at ha
        rw [hnode.endsOpen_later] at hclash
        rw [read_joint _ _ (mayFollow_printed hnext hclash shapes), s.shape_link]
        exact (ih ha _).precede hnode _

theorem broken_chain {s : Shape} {shapes : List Shape} {first : Node} {rest : List Node}
    (hfirst : s.Denotes compile first) (hrest : List.Forall₂ (Shape.Denotes compile) shapes rest)
    (ha : dotsApart true (first :: rest) = false) :
    Broken compile (outline (Node.chain first rest).toChars) := by
  rw [toChars_chain hfirst hrest, outline]
  cases hrest with
  | nil => cases ha
  | @cons s' next shapes nodes hnext hrest =>
    cases hclash : first.endsOpen true && next.isSkip with
    | true =>
      rw [Bool.and_eq_true, hfirst.endsOpen_leading, hnext.isSkip] at hclash
      exact broken_term none hclash.1 hclash.2 shapes
    | false =>
      rw [dotsApart, hclash, Bool.not_false, Bool.true_and] at ha
      rw [hfirst.endsOpen_leading] at hclash
      rw [read_term _ _ _ (mayFollow_printed hnext hclash shapes), s.shape_term]
      exact (broken_printed (.cons hnext hrest) ha _).precede hfirst _

end

/-- A query whose outline is broken is rejected for the fault of the outline. -/
theorem parseWith_of_broken {query : String} (h : Broken compile (outline query.toList)) :
    ∃ fault column, parseWith compile query = .error (.rejected ⟨query, .outline fault, column⟩) := by
  obtain ⟨fault, column, shapes, nodes, hfault, hraw, hnodes⟩ := h
  have hresolved := (resolveAll_eq_ok_iff hraw query).mpr hnodes
  refine ⟨fault, column, ?_⟩
  unfold parseWith parseIn
  cases ho : outline query.toList with
  | mk raws located =>
    rw [ho] at hfault hresolved
    subst hfault
    cases hr : resolveAll (storeless compile) query raws () with
    | mk result store =>
      rw [hr] at hresolved
      cases hresolved
      simp only [hr]

variable (compile)

/-- The printed text of an accepted query is read back as the same pattern exactly when the dots of its
terms stand apart; otherwise it is rejected, and not for a regex. -/
theorem printed_accepted_iff_dotsApart (query : String) (p : Pattern) (h : parseWith compile query = .ok p) :
    (parseWith compile p.toText = .ok ⟨p.toText, p.root⟩ ↔ dotsApart true p.terms = true) ∧
    (dotsApart true p.terms = false → ∃ fault column,
      parseWith compile p.toText = .error (.rejected ⟨p.toText, .outline fault, column⟩)) := by
  obtain ⟨d, -, first, rest, hnodes, rfl⟩ := parseWith_eq_ok_iff.mp h
  obtain ⟨s, shapes, hfirst, hrest, -⟩ := List.forall₂_cons_right_iff.mp hnodes
  have hterms : (Node.chain first rest).flatten = first :: rest :=
    Node.flatten_chain (not_isSeq_of_forall₂ hnodes)
  have hchars : (Node.chain first rest).toText.toList = (Node.chain first rest).toChars :=
    String.toList_ofList
  have hrejected (ha : dotsApart true (first :: rest) = false) : ∃ fault column,
      parseWith compile (Node.chain first rest).toText =
        .error (.rejected ⟨(Node.chain first rest).toText, .outline fault, column⟩) := by
    apply parseWith_of_broken
    rw [hchars]
    exact broken_chain hfirst hrest ha
  simp only [Pattern.toText, Pattern.terms, hterms]
  refine ⟨⟨fun hread => ?_, fun ha => ?_⟩, hrejected⟩
  · by_contra ha
    obtain ⟨fault, column, hbroken⟩ := hrejected (Bool.not_eq_true _ ▸ ha)
    rw [hbroken] at hread
    cases hread
  · obtain ⟨d', hd', hshapes⟩ := exists_tight_derivation hfirst hrest ha
    refine parseWith_eq_ok_iff.mpr ⟨d', hd'.trans hchars.symm, first, rest, ?_, rfl⟩
    rw [hshapes]
    exact .cons hfirst hrest

/-- A dot and a skip, with a comma between them, are accepted. They are printed without the comma, and
what is printed is rejected. -/
theorem printed_dot_skip_rejected :
    let compile : String → Except Regex.CompileError (Frame → Bool) := fun text => .ok (· == text)
    ∃ p, parseWith compile ".,..\x7bb\x7d" = .ok p ∧ p.toText = "...\x7bb\x7d" ∧
      ∃ fault column, parseWith compile "...\x7bb\x7d" =
        .error (.rejected ⟨"...\x7bb\x7d", .outline fault, column⟩) := by
  intro compile
  have h : parseWith compile ".,..\x7bb\x7d" =
      .ok ⟨".,..\x7bb\x7d", Node.chain .any [.skip (.leaf "b" (· == "b"))]⟩ := by rfl
  exact ⟨_, h, rfl, (printed_accepted_iff_dotsApart compile _ _ h).2 rfl⟩

end Grammar

end StackQuery.Query
