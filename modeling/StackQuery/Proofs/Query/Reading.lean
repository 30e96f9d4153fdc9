import StackQuery.Proofs.Query.Grammar

/-!
# Reading a derivation

The automaton that reads queries ends without a fault exactly on the texts that have a derivation, and
then its outline holds the terms of the derivation in order, each leaf with the column of its brace.
-/
namespace StackQuery.Query.Grammar

open Expecting (go stop opening)

/-- An outline with one more term in front. -/
def precede (t : RawTerm) (o : Outline) : Outline := (t :: o.1, o.2)

/-- An atom whose first character is at a column, as it is read. -/
def Atom.raw (column : Nat) : Atom → RawAtom
  | any => .any
  | leaf body => .leaf body.val column

/-- A term whose atom begins at a column, as it is read. -/
def Shape.raw (column : Nat) (s : Shape) : RawTerm := ⟨s.negated, s.skipped, s.atom.raw column⟩

/-- A term is read as one of a shape, wherever its atom begins. -/
def HasShape (t : RawTerm) (s : Shape) : Prop := ∃ column, t = s.raw column

/-- The column of the atom of a term that begins at a column. -/
def Term.atomColumn (n : Nat) (t : Term) : Nat :=
  n + (marked ['!'] t.bang).length + (marked ['.', '.'] t.dots).length

/-- The column of the atom after a joint that begins at a column. -/
def Joint.atomColumn (n : Nat) : Joint → Nat
  | comma ws term => term.atomColumn (n + 1 + ws.val.length)
  | dots ws _ => n + 2 + ws.val.length

/-- The terms of links that begin at a column, as they are read. -/
def linksRaw : (column : Nat) → List Link → List RawTerm
  | _, [] => []
  | n, link :: rest =>
    link.joint.shape.raw (link.joint.atomColumn n) ::
      linksRaw (n + link.joint.chars.length + link.trail.val.length) rest

/-- The terms of a derivation, as they are read. -/
def Derivation.raw (d : Derivation) : List RawTerm :=
  d.first.shape.raw (d.first.atomColumn d.lead.val.length) ::
    linksRaw (d.lead.val.length + d.first.chars.length + d.trail.val.length) d.links

variable {state next : Expecting} {n : Nat} {c : Char} {s text : List Char}

theorem read_go (h : state.step n c = go next) : state.read n (c :: s) = next.read (n + 1) s :=
  read_cons h

theorem read_end {t : RawTerm} (h : state.step n c = (some t, .ok next)) :
    state.read n (c :: s) = precede t (next.read (n + 1) s) :=
  read_cons h

def Patient (state : Expecting) : Prop :=
  ∀ n c, Text.isBlank c = true → state.step n c = go state

theorem patient_term (comma : Option Nat) : Patient (.term comma) := by
  intro n c h
  simp only [Expecting.step, h, if_true]

theorem patient_negation (bang : Nat) : Patient (.negation bang) := by
  intro n c h
  simp only [Expecting.step, h, if_true]

theorem patient_leadingDots (negated : Bool) (dots : Nat) : Patient (.leadingDots negated dots) := by
  intro n c h
  simp only [Expecting.step, h, if_true]

theorem patient_joiningDots (dots : Nat) : Patient (.joiningDots dots) := by
  intro n c h
  simp only [Expecting.step, h, if_true]

theorem patient_separator : Patient .separator := by
  intro n c h
  simp only [Expecting.step, Expecting.stepSeparator, h, if_true, go]

theorem read_blanks (h : Patient state) (ws : Blanks) (n : Nat) (s : List Char) :
    state.read n (ws.val ++ s) = state.read (n + ws.val.length) s := by
  obtain ⟨ws, hws⟩ := ws
  induction ws generalizing n with
  | nil => rfl
  | cons c rest ih =>
    change state.read n (c :: (rest ++ s)) = state.read (n + (rest.length + 1)) s
    rw [read_go (h n c (hws c (by simp))), ih (n + 1) (fun d hd => hws d (List.mem_cons_of_mem _ hd)),
      Nat.add_assoc, Nat.add_comm 1]

theorem read_regex {depth : Nat} {r : List Char} (h : Closes depth r) (negated skipped : Bool)
    (brace : Nat) (read : List Char) (n : Nat) (s : List Char) :
    (Expecting.regex negated skipped brace depth false read).read n (r ++ '\x7d' :: s) =
      precede ⟨negated, skipped, .leaf (read.reverse ++ r) brace⟩
        (Expecting.separator.read (n + r.length + 1) s) := by
  -- one more character is read: it stands at the end of what was read, and the column has grown by one
  have hshift (c : Char) (read text : List Char) (n : Nat) :
      precede ⟨negated, skipped, .leaf ((c :: read).reverse ++ text) brace⟩
          (Expecting.separator.read (n + 1 + text.length + 1) s) =
        precede ⟨negated, skipped, .leaf (read.reverse ++ c :: text) brace⟩
          (Expecting.separator.read (n + (c :: text).length + 1) s) := by
    rw [List.reverse_cons, List.append_assoc, List.singleton_append, List.length_cons, Nat.add_assoc n 1,
      Nat.add_comm 1]
  induction h generalizing read n with
  | done => rw [List.append_nil]; exact read_end rfl
  | @escaped depth text c _ ih =>
    rw [List.cons_append, List.cons_append, read_go rfl, read_go rfl, ih, hshift c, hshift]
  | opening _ ih => rw [List.cons_append, read_go rfl, ih, hshift]
  | closing _ ih => rw [List.cons_append, read_go rfl, ih, hshift]
  | @plain depth text c backslash brace' closer _ ih =>
    have hstep : (Expecting.regex negated skipped brace depth false read).step n c =
        go (.regex negated skipped brace depth false (c :: read)) := by
      simp [Expecting.step, Expecting.stepRegex, backslash, brace', closer]
    rw [List.cons_append, read_go hstep, ih, hshift]

theorem read_leaf (body : Body) (negated skipped : Bool) (n : Nat) (s : List Char) :
    (opening negated skipped n).read (n + 1) (body.val ++ '\x7d' :: s) =
      precede ⟨negated, skipped, (Atom.leaf body).raw n⟩
        (Expecting.separator.read (n + (Atom.leaf body).chars.length) s) := by
  have hlength : n + 1 + body.val.length + 1 = n + (Atom.leaf body).chars.length := by
    simp only [Atom.chars, List.length_cons, List.length_append, List.length_nil]
    omega
  rw [opening, read_regex body.property, hlength]
  rfl

theorem read_termDot (negated : Bool) (dot n : Nat) (h : s.head? ≠ some '.') :
    (Expecting.termDot negated dot).read n s =
      precede ⟨negated, false, .any⟩ (Expecting.separator.read n s) := by
  cases s with
  | nil => rfl
  | cons c rest =>
    have hc : c ≠ '.' := fun hc => h (congrArg some hc)
    simp only [Expecting.read, Expecting.step, beq_iff_eq, hc, if_false]
    cases Expecting.stepSeparator n c <;> rfl

theorem read_joinedDot (dot n : Nat) (h : s.head? ≠ some '.') :
    (Expecting.joinedDot dot).read n s =
      precede ⟨false, true, .any⟩ (Expecting.separator.read n s) := by
  cases s with
  | nil => rfl
  | cons c rest =>
    have hc : c ≠ '.' := fun hc => h (congrArg some hc)
    simp only [Expecting.read, Expecting.step, beq_iff_eq, hc, if_false]
    cases Expecting.stepSeparator n c <;> rfl

theorem read_leadingDots (negated : Bool) (dots : Nat) (atom : Atom) (n : Nat) (s : List Char) :
    (Expecting.leadingDots negated dots).read n (atom.chars ++ s) =
      precede ⟨negated, true, atom.raw n⟩ (Expecting.separator.read (n + atom.chars.length) s) := by
  cases atom with
  | any => exact read_end rfl
  | leaf body =>
    rw [Atom.chars, List.cons_append, List.append_assoc, read_go rfl]
    exact read_leaf body negated true n s

theorem read_joiningDots (dots : Nat) (atom : Atom) (n : Nat) (h : MayFollow atom.isAny s) :
    (Expecting.joiningDots dots).read n (atom.chars ++ s) =
      precede ⟨false, true, atom.raw n⟩ (Expecting.separator.read (n + atom.chars.length) s) := by
  cases atom with
  | any =>
    rw [Atom.chars, List.singleton_append, read_go rfl]
    exact read_joinedDot n (n + 1) (h rfl)
  | leaf body =>
    rw [Atom.chars, List.cons_append, List.append_assoc, read_go rfl]
    exact read_leaf body false true n s

/-- A state in which a term begins, after its exclamation mark or without one. -/
structure Begins (negated : Bool) (state : Expecting) : Prop where
  brace : ∀ n, state.step n '\x7b' = go (opening negated false n)
  dot : ∀ n, state.step n '.' = go (.termDot negated n)

theorem begins_term (comma : Option Nat) : Begins false (.term comma) :=
  ⟨fun _ => rfl, fun _ => rfl⟩

theorem begins_negation (bang : Nat) : Begins true (.negation bang) :=
  ⟨fun _ => rfl, fun _ => rfl⟩

theorem read_positiveChars {negated : Bool} (hb : Begins negated state) (dots : Option Blanks)
    (atom : Atom) (n : Nat) (h : MayFollow (dots.isNone && atom.isAny) s) :
    state.read n (positiveChars dots atom ++ s) =
      precede ⟨negated, dots.isSome, atom.raw (n + (marked ['.', '.'] dots).length)⟩
        (Expecting.separator.read (n + (positiveChars dots atom).length) s) := by
  cases dots with
  | none =>
    cases atom with
    | any =>
      change state.read n ('.' :: s) = _
      rw [read_go (hb.dot n)]
      exact read_termDot negated n (n + 1) (h rfl)
    | leaf body =>
      rw [positiveChars, marked_none, List.nil_append, Atom.chars, List.cons_append, List.append_assoc,
        read_go (hb.brace n)]
      exact read_leaf body negated false n s
  | some ws =>
    have hmark : n + 1 + 1 + ws.val.length = n + (marked ['.', '.'] (some ws)).length := by
      simp only [marked_some, List.length_append, List.length_cons, List.length_nil]
      omega
    rw [positiveChars, marked_some, List.append_assoc, List.append_assoc, List.cons_append,
      List.singleton_append, read_go (hb.dot n), read_go rfl, read_blanks (patient_leadingDots _ _),
      read_leadingDots, hmark, marked_some, Nat.add_assoc n, ← List.length_append]
    rfl

theorem read_term (comma : Option Nat) (t : Term) (n : Nat) (h : MayFollow t.isOpen s) :
    (Expecting.term comma).read n (t.chars ++ s) =
      precede (t.shape.raw (t.atomColumn n)) (Expecting.separator.read (n + t.chars.length) s) := by
  obtain ⟨bang, dots, atom⟩ := t
  cases bang with
  | none =>
    rw [Term.chars, marked_none, List.nil_append]
    exact read_positiveChars (begins_term comma) dots atom n h
  | some ws =>
    have hmark : n + 1 + ws.val.length = n + (marked ['!'] (some ws)).length := by
      simp only [marked_some, List.length_append, List.length_cons, List.length_nil]
      omega
    rw [Term.chars, marked_some, List.append_assoc, List.append_assoc, List.singleton_append,
      read_go rfl, read_blanks (patient_negation _), read_positiveChars (begins_negation _) dots atom _ h,
      hmark, marked_some, Nat.add_assoc n _ (positiveChars dots atom).length, ← List.length_append]
    rfl

theorem read_joint (joint : Joint) (n : Nat) (h : MayFollow joint.isOpen s) :
    Expecting.separator.read n (joint.chars ++ s) =
      precede (joint.shape.raw (joint.atomColumn n))
        (Expecting.separator.read (n + joint.chars.length) s) := by
  cases joint with
  | comma ws term =>
    have hlength : n + 1 + ws.val.length + term.chars.length = n + (Joint.comma ws term).chars.length := by
      simp only [Joint.chars, List.length_cons, List.length_append]
      omega
    have hstep : Expecting.separator.step n ',' = go (.term (some n)) := rfl
    rw [Joint.chars, List.cons_append, List.append_assoc, read_go hstep, read_blanks (patient_term _),
      read_term _ term _ h, hlength]
    rfl
  | dots ws atom =>
    have hlength : n + 1 + 1 + ws.val.length + atom.chars.length =
        n + (Joint.dots ws atom).chars.length := by
      simp only [Joint.chars, List.length_cons, List.length_append]
      omega
    have hdot : Expecting.separator.step n '.' = go (.separatorDot n) := rfl
    have hdots : (Expecting.separatorDot n).step (n + 1) '.' = go (.joiningDots n) := rfl
    rw [Joint.chars, List.cons_append, List.cons_append, List.append_assoc, read_go hdot, read_go hdots,
      read_blanks (patient_joiningDots _), read_joiningDots _ atom _ h, hlength]
    rfl

theorem read_links {links : List Link} (h : Spaced links) (n : Nat) :
    Expecting.separator.read n (linksChars links) = (linksRaw n links, none) := by
  induction links generalizing n with
  | nil => rfl
  | cons link rest ih =>
    rw [linksChars_cons, read_joint link.joint n h.1, read_blanks patient_separator, ih h.2]
    rfl

/-- A text with a derivation has no fault, and its outline holds the terms of the derivation. -/
theorem outline_chars (d : Derivation) : outline d.chars = (d.raw, none) := by
  rw [outline, Derivation.chars, read_blanks (patient_term _), read_term _ _ _ d.first_spaced,
    read_blanks patient_separator, read_links d.links_spaced]
  simp only [precede, Derivation.raw, Nat.zero_add]

theorem exists_blanks (text : List Char) : ∃ (ws : Blanks) (rest : List Char),
    text = ws.val ++ rest ∧ NoBlank rest := by
  refine ⟨⟨text.takeWhile Text.isBlank, ?_⟩, text.dropWhile Text.isBlank,
    List.takeWhile_append_dropWhile.symm, ?_⟩
  · intro c hc
    exact List.all_eq_true.mp List.all_takeWhile c hc
  · intro c hc
    have h := List.head?_dropWhile_not Text.isBlank text
    rw [hc] at h
    simpa using h

theorem precede_snd (t : RawTerm) (o : Outline) : (precede t o).2 = o.2 := rfl

theorem read_stop {fault : Fault} {column : Nat} (h : state.step n c = stop fault column) :
    (state.read n (c :: s)).2 = some (fault, column) := by
  simp only [Expecting.read, h, stop]

/-- A regex that is read without a fault is closed. After a backslash, the backslash is put back. -/
theorem exists_closes {negated skipped : Bool} {brace depth : Nat} {escaped : Bool} {read : List Char}
    (h : ((Expecting.regex negated skipped brace depth escaped read).read n text).2 = none) :
    ∃ r s, text = r ++ '\x7d' :: s ∧ Closes depth (if escaped then '\\' :: r else r) := by
  induction text generalizing depth escaped read n with
  | nil => cases h
  | cons c rest ih =>
    cases escaped with
    | true =>
      rw [read_go rfl] at h
      obtain ⟨r, s, rfl, hr⟩ := ih h
      exact ⟨c :: r, s, rfl, .escaped c hr⟩
    | false =>
      by_cases hbackslash : c = '\\'
      · subst hbackslash
        rw [read_go rfl] at h
        obtain ⟨r, s, rfl, hr⟩ := ih h
        exact ⟨'\\' :: r, s, rfl, hr⟩
      by_cases hbrace : c = '\x7b'
      · subst hbrace
        rw [read_go rfl] at h
        obtain ⟨r, s, rfl, hr⟩ := ih h
        exact ⟨'\x7b' :: r, s, rfl, .opening hr⟩
      by_cases hcloser : c = '\x7d'
      · subst hcloser
        cases depth with
        | zero => exact ⟨[], rest, rfl, .done⟩
        | succ depth =>
          rw [read_go rfl] at h
          obtain ⟨r, s, rfl, hr⟩ := ih h
          exact ⟨'\x7d' :: r, s, rfl, .closing hr⟩
      · have hstep : (Expecting.regex negated skipped brace depth false read).step n c =
            go (.regex negated skipped brace depth false (c :: read)) := by
          simp [Expecting.step, Expecting.stepRegex, hbackslash, hbrace, hcloser]
        rw [read_go hstep] at h
        obtain ⟨r, s, rfl, hr⟩ := ih h
        exact ⟨c :: r, s, rfl, .plain hbackslash hbrace hcloser hr⟩

theorem exists_leaf {negated skipped : Bool} {brace : Nat}
    (h : ((opening negated skipped brace).read n text).2 = none) :
    ∃ body s, '\x7b' :: text = (Atom.leaf body).chars ++ s := by
  obtain ⟨r, s, rfl, hr⟩ := exists_closes h
  exact ⟨⟨r, hr⟩, s, by simp [Atom.chars]⟩

theorem exists_leading_atom {negated : Bool} {dots : Nat} (hb : NoBlank text)
    (h : ((Expecting.leadingDots negated dots).read n text).2 = none) :
    ∃ (atom : Atom) (s : List Char), text = atom.chars ++ s := by
  cases text with
  | nil => cases h
  | cons c rest =>
    have hblank := hb c rfl
    by_cases hbrace : c = '\x7b'
    · subst hbrace
      rw [read_go rfl] at h
      obtain ⟨body, s, hs⟩ := exists_leaf h
      exact ⟨.leaf body, s, hs⟩
    by_cases hdot : c = '.'
    · subst hdot
      exact ⟨.any, rest, rfl⟩
    · have hstep : (Expecting.leadingDots negated dots).step n c = stop (unexpected c .expectedAtom) n := by
        simp [Expecting.step, hblank, hbrace, hdot]
      rw [read_stop hstep] at h
      cases h

theorem head?_ne_dot_of_joinedDot {dot : Nat} (h : ((Expecting.joinedDot dot).read n s).2 = none) :
    s.head? ≠ some '.' := by
  cases s with
  | nil => simp
  | cons c rest =>
    intro hc
    cases hc
    cases h

theorem exists_joined_atom {dots : Nat} (hb : NoBlank text)
    (h : ((Expecting.joiningDots dots).read n text).2 = none) :
    ∃ (atom : Atom) (s : List Char), text = atom.chars ++ s ∧ MayFollow atom.isAny s := by
  cases text with
  | nil => cases h
  | cons c rest =>
    have hblank := hb c rfl
    by_cases hbrace : c = '\x7b'
    · subst hbrace
      rw [read_go rfl] at h
      obtain ⟨body, s, hs⟩ := exists_leaf h
      refine ⟨.leaf body, s, hs, ?_⟩
      intro hopen
      cases hopen
    by_cases hdot : c = '.'
    · subst hdot
      rw [read_go rfl] at h
      exact ⟨.any, rest, rfl, fun _ => head?_ne_dot_of_joinedDot h⟩
    by_cases hbang : c = '!'
    · subst hbang
      cases h
    · have hstep : (Expecting.joiningDots dots).step n c = stop (unexpected c .expectedAtom) n := by
        simp [Expecting.step, hblank, hbang, hbrace, hdot]
      rw [read_stop hstep] at h
      cases h

theorem exists_positiveChars {negated : Bool} (hb : Begins negated state) (hnil : state.finish.2 ≠ none)
    (hstop : ∀ n c, Text.isBlank c = false → c ≠ '\x7b' → c ≠ '.' → c ≠ '!' →
      ∃ fault column, state.step n c = stop fault column)
    (hblank : NoBlank text) (hbang : text.head? ≠ some '!') (h : (state.read n text).2 = none) :
    ∃ (dots : Option Blanks) (atom : Atom) (s : List Char),
      text = positiveChars dots atom ++ s ∧ MayFollow (dots.isNone && atom.isAny) s := by
  cases text with
  | nil => exact absurd h hnil
  | cons c rest =>
    by_cases hbrace : c = '\x7b'
    · subst hbrace
      rw [read_go (hb.brace n)] at h
      obtain ⟨body, s, hs⟩ := exists_leaf h
      refine ⟨none, .leaf body, s, hs, ?_⟩
      intro hopen
      cases hopen
    by_cases hdot : c = '.'
    · subst hdot
      by_cases hsecond : rest.head? = some '.'
      · obtain ⟨rest, rfl⟩ := List.head?_eq_some_iff.mp hsecond
        rw [read_go (hb.dot n), read_go rfl] at h
        obtain ⟨ws, text, rfl, htext⟩ := exists_blanks rest
        rw [read_blanks (patient_leadingDots _ _)] at h
        obtain ⟨atom, s, rfl⟩ := exists_leading_atom htext h
        refine ⟨some ws, atom, s, by simp [positiveChars], ?_⟩
        intro hopen
        cases hopen
      · exact ⟨none, .any, rest, rfl, fun _ => hsecond⟩
    · have hc : c ≠ '!' := fun hc => hbang (congrArg some hc)
      obtain ⟨fault, column, hstep⟩ := hstop n c (hblank c rfl) hbrace hdot hc
      rw [read_stop hstep] at h
      cases h

theorem exists_term {comma : Option Nat} (hb : NoBlank text)
    (h : ((Expecting.term comma).read n text).2 = none) :
    ∃ (t : Term) (s : List Char), text = t.chars ++ s ∧ MayFollow t.isOpen s := by
  by_cases hbang : text.head? = some '!'
  · obtain ⟨rest, rfl⟩ := List.head?_eq_some_iff.mp hbang
    rw [read_go rfl] at h
    obtain ⟨ws, text, rfl, htext⟩ := exists_blanks rest
    rw [read_blanks (patient_negation _)] at h
    have hstop (m : Nat) (c : Char) (hblank : Text.isBlank c = false) (hbrace : c ≠ '\x7b')
        (hdot : c ≠ '.') : (Expecting.negation n).step m c = stop (.missingTerm .bang) n := by
      simp [Expecting.step, hblank, hbrace, hdot]
    have hsecond : text.head? ≠ some '!' := by
      intro hc
      obtain ⟨rest, rfl⟩ := List.head?_eq_some_iff.mp hc
      rw [read_stop (hstop _ '!' rfl (by decide) (by decide))] at h
      cases h
    obtain ⟨dots, atom, s, rfl, hs⟩ := exists_positiveChars (begins_negation n) (by simp [Expecting.finish])
      (fun m c hblank hbrace hdot _ => ⟨_, _, hstop m c hblank hbrace hdot⟩) htext hsecond h
    exact ⟨⟨some ws, dots, atom⟩, s, by simp [Term.chars], hs⟩
  · have hnil : (Expecting.term comma).finish.2 ≠ none := by cases comma <;> simp [Expecting.finish]
    obtain ⟨dots, atom, s, rfl, hs⟩ := exists_positiveChars (begins_term comma) hnil
      (fun m c hblank hbrace hdot hc => ⟨unexpected c .expectedAtom, m, by
        simp [Expecting.step, hblank, hbrace, hdot, hc]⟩) hb hbang h
    exact ⟨⟨none, dots, atom⟩, s, by simp [Term.chars], hs⟩

theorem exists_joint (hb : NoBlank text) (hne : text ≠ [])
    (h : (Expecting.separator.read n text).2 = none) :
    ∃ (joint : Joint) (s : List Char), text = joint.chars ++ s ∧ MayFollow joint.isOpen s := by
  obtain ⟨c, rest, rfl⟩ := List.exists_cons_of_ne_nil hne
  have hblank := hb c rfl
  by_cases hcomma : c = ','
  · subst hcomma
    rw [read_go rfl] at h
    obtain ⟨ws, text, rfl, htext⟩ := exists_blanks rest
    rw [read_blanks (patient_term _)] at h
    obtain ⟨t, s, rfl, hs⟩ := exists_term htext h
    exact ⟨.comma ws t, s, by simp [Joint.chars], hs⟩
  by_cases hdot : c = '.'
  · subst hdot
    rw [read_go rfl] at h
    cases rest with
    | nil => cases h
    | cons c rest =>
      by_cases hsecond : c = '.'
      · subst hsecond
        rw [read_go rfl] at h
        obtain ⟨ws, text, rfl, htext⟩ := exists_blanks rest
        rw [read_blanks (patient_joiningDots _)] at h
        obtain ⟨atom, s, rfl, hs⟩ := exists_joined_atom htext h
        exact ⟨.dots ws atom, s, by simp [Joint.chars], hs⟩
      · have hstep : (Expecting.separatorDot n).step (n + 1) c = stop .expectedSeparator n := by
          simp [Expecting.step, hsecond]
        rw [read_stop hstep] at h
        cases h
  · have hstep : Expecting.separator.step n c = stop (unexpected c .expectedSeparator) n := by
      simp [Expecting.step, Expecting.stepSeparator, hblank, hcomma, hdot, stop]
    rw [read_stop hstep] at h
    cases h

theorem exists_links (h : (Expecting.separator.read n text).2 = none) :
    ∃ (trail : Blanks) (links : List Link), text = trail.val ++ linksChars links ∧ Spaced links := by
  induction hlen : text.length using Nat.strongRecOn generalizing text n with
  | ind length ih =>
    obtain ⟨trail, rest, rfl, hrest⟩ := exists_blanks text
    rw [read_blanks patient_separator] at h
    by_cases hnil : rest = []
    · subst hnil
      exact ⟨trail, [], rfl, trivial⟩
    · obtain ⟨joint, s, rfl, hs⟩ := exists_joint hrest hnil h
      rw [read_joint joint _ hs, precede_snd] at h
      have hpos : 0 < joint.chars.length := by cases joint <;> simp [Joint.chars]
      have hlt : s.length < length := by
        rw [← hlen, List.length_append, List.length_append]
        omega
      obtain ⟨trail', links, rfl, hlinks⟩ := ih s.length hlt h rfl
      exact ⟨trail, ⟨joint, trail'⟩ :: links, by rw [linksChars_cons], hs, hlinks⟩

theorem exists_derivation (h : (outline text).2 = none) : ∃ d : Derivation, d.chars = text := by
  obtain ⟨lead, rest, rfl, hrest⟩ := exists_blanks text
  rw [outline, read_blanks (patient_term _)] at h
  obtain ⟨first, s, rfl, hs⟩ := exists_term hrest h
  rw [read_term _ first _ hs, precede_snd] at h
  obtain ⟨trail, links, rfl, hlinks⟩ := exists_links h
  exact ⟨⟨lead, first, trail, links, hs, hlinks⟩, rfl⟩

end StackQuery.Query.Grammar
