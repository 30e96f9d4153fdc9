import StackQuery.Query.Outline

/-!
# The grammar of queries

A derivation of a query is a tree of blanks, terms and the separators between them; its characters are
the text that it derives. A dot that is an atom of its own, under no skip prefix, is not followed by
another dot at once: two dots where a term begins are a skip prefix. No text has two derivations.
-/
namespace StackQuery.Query.Grammar

abbrev Blanks := {ws : List Char // ∀ c ∈ ws, Text.isBlank c = true}

/-- The text inside a number of open braces, up to the brace that closes the outermost. A backslash takes
the character after it out of the count. -/
inductive Closes : Nat → List Char → Prop where
  | done : Closes 0 []
  | escaped {depth : Nat} {text : List Char} (c : Char) (rest : Closes depth text) :
      Closes depth ('\\' :: c :: text)
  | opening {depth : Nat} {text : List Char} (rest : Closes (depth + 1) text) :
      Closes depth ('\x7b' :: text)
  | closing {depth : Nat} {text : List Char} (rest : Closes depth text) :
      Closes (depth + 1) ('\x7d' :: text)
  | plain {depth : Nat} {text : List Char} {c : Char} (backslash : c ≠ '\\') (brace : c ≠ '\x7b')
      (closer : c ≠ '\x7d') (rest : Closes depth text) : Closes depth (c :: text)

/-- The text between the braces of a leaf. -/
abbrev Body := {text : List Char // Closes 0 text}

inductive Atom where
  | any
  | leaf (body : Body)

def Atom.chars : Atom → List Char
  | any => ['.']
  | leaf body => '\x7b' :: (body.val ++ ['\x7d'])

def Atom.isAny : Atom → Bool
  | any => true
  | leaf _ => false

/-- A term: the blanks after its exclamation mark and after the dots of its skip prefix, if it has them,
and its atom. -/
structure Term where
  bang : Option Blanks
  dots : Option Blanks
  atom : Atom

/-- The characters of a mark with the blanks after it. -/
def marked (mark : List Char) : Option Blanks → List Char
  | none => []
  | some ws => mark ++ ws.val

/-- The characters of a term without its exclamation mark. -/
def positiveChars (dots : Option Blanks) (atom : Atom) : List Char :=
  marked ['.', '.'] dots ++ atom.chars

def Term.chars (t : Term) : List Char := marked ['!'] t.bang ++ positiveChars t.dots t.atom

/-- What joins a term to those before it, with the blanks inside. -/
inductive Joint where
  | comma (ws : Blanks) (term : Term)
  | dots (ws : Blanks) (atom : Atom)

def Joint.chars : Joint → List Char
  | comma ws term => ',' :: (ws.val ++ term.chars)
  | dots ws atom => '.' :: '.' :: (ws.val ++ atom.chars)

/-- A joint and the blanks after it. -/
structure Link where
  joint : Joint
  trail : Blanks

def linksChars (links : List Link) : List Char :=
  links.flatMap fun link => link.joint.chars ++ link.trail.val

/-- What is read of a term: its marks and its atom. -/
structure Shape where
  negated : Bool
  skipped : Bool
  atom : Atom

def Term.shape (t : Term) : Shape := ⟨t.bang.isSome, t.dots.isSome, t.atom⟩

def Joint.shape : Joint → Shape
  | comma _ term => term.shape
  | dots _ atom => ⟨false, true, atom⟩

/-- The atom is a dot that a dot right after it would turn into a skip prefix. -/
def Term.isOpen (t : Term) : Bool := t.dots.isNone && t.atom.isAny

def Joint.isOpen : Joint → Bool
  | comma _ term => term.isOpen
  | dots _ atom => atom.isAny

/-- A text that may follow: no dot follows an open dot at once. -/
def MayFollow (isOpen : Bool) (text : List Char) : Prop := isOpen = true → text.head? ≠ some '.'

/-- Every joint is followed by what may follow it. -/
def Spaced : List Link → Prop
  | [] => True
  | link :: rest => MayFollow link.joint.isOpen (link.trail.val ++ linksChars rest) ∧ Spaced rest

structure Derivation where
  lead : Blanks
  first : Term
  trail : Blanks
  links : List Link
  first_spaced : MayFollow first.isOpen (trail.val ++ linksChars links)
  links_spaced : Spaced links

namespace Derivation

def chars (d : Derivation) : List Char :=
  d.lead.val ++ (d.first.chars ++ (d.trail.val ++ linksChars d.links))

def shapes (d : Derivation) : List Shape := d.first.shape :: d.links.map (·.joint.shape)

end Derivation

@[simp] theorem marked_none (mark : List Char) : marked mark none = [] := rfl

@[simp] theorem marked_some (mark : List Char) (ws : Blanks) : marked mark (some ws) = mark ++ ws.val := rfl

@[simp] theorem linksChars_nil : linksChars [] = [] := rfl

@[simp] theorem linksChars_cons (link : Link) (rest : List Link) :
    linksChars (link :: rest) = link.joint.chars ++ (link.trail.val ++ linksChars rest) := by
  simp [linksChars]

def NoBlank (text : List Char) : Prop := ∀ c, text.head? = some c → Text.isBlank c = false

theorem noBlank_nil : NoBlank [] := by
  intro c h
  cases h

theorem noBlank_cons {c : Char} (h : Text.isBlank c = false) (text : List Char) : NoBlank (c :: text) := by
  intro d hd
  cases hd
  exact h

theorem blanks_append_inj {ws ws' : Blanks} {s s' : List Char} (hs : NoBlank s) (hs' : NoBlank s')
    (h : ws.val ++ s = ws'.val ++ s') : ws = ws' ∧ s = s' := by
  obtain ⟨ws, hws⟩ := ws
  obtain ⟨ws', hws'⟩ := ws'
  induction ws generalizing ws' with
  | nil =>
    cases ws' with
    | nil => exact ⟨rfl, h⟩
    | cons c rest =>
      have hc := hs c (by rw [List.nil_append] at h; rw [h]; rfl)
      rw [hws' c (by simp)] at hc
      cases hc
  | cons c rest ih =>
    cases ws' with
    | nil =>
      have hc := hs' c (by rw [List.nil_append] at h; rw [← h]; rfl)
      rw [hws c (by simp)] at hc
      cases hc
    | cons c' rest' =>
      simp only [List.cons_append, List.cons.injEq] at h
      obtain ⟨rfl, h⟩ := h
      obtain ⟨hrest, hss⟩ := ih (fun d hd => hws d (List.mem_cons_of_mem _ hd)) rest'
        (fun d hd => hws' d (List.mem_cons_of_mem _ hd)) h
      cases hrest
      exact ⟨rfl, hss⟩

theorem Closes.append_inj {depth : Nat} {r r' s s' : List Char} (hr : Closes depth r)
    (hr' : Closes depth r') (h : r ++ '\x7d' :: s = r' ++ '\x7d' :: s') : r = r' ∧ s = s' := by
  induction hr generalizing r' with
  | done =>
    cases hr' with
    | done =>
      cases h
      exact ⟨rfl, rfl⟩
    | escaped | opening => simp at h
    | plain _ _ closer => exact absurd (List.cons.inj h).1.symm closer
  | escaped c _ ih =>
    cases hr' with
    | done | opening | closing => simp at h
    | escaped c' rest' =>
      simp only [List.cons_append, List.cons.injEq, true_and] at h
      obtain ⟨rfl, h⟩ := h
      obtain ⟨rfl, hs⟩ := ih rest' h
      exact ⟨rfl, hs⟩
    | plain backslash => exact absurd (List.cons.inj h).1.symm backslash
  | opening _ ih =>
    cases hr' with
    | done | escaped | closing => simp at h
    | opening rest' =>
      obtain ⟨rfl, hs⟩ := ih rest' (List.cons.inj h).2
      exact ⟨rfl, hs⟩
    | plain _ brace => exact absurd (List.cons.inj h).1.symm brace
  | closing _ ih =>
    cases hr' with
    | escaped | opening => simp at h
    | closing rest' =>
      obtain ⟨rfl, hs⟩ := ih rest' (List.cons.inj h).2
      exact ⟨rfl, hs⟩
    | plain _ _ closer => exact absurd (List.cons.inj h).1.symm closer
  | plain backslash brace closer _ ih =>
    cases hr' with
    | done => exact absurd (List.cons.inj h).1 closer
    | escaped => exact absurd (List.cons.inj h).1 backslash
    | opening => exact absurd (List.cons.inj h).1 brace
    | closing => exact absurd (List.cons.inj h).1 closer
    | plain _ _ _ rest' =>
      simp only [List.cons_append, List.cons.injEq] at h
      obtain ⟨rfl, h⟩ := h
      obtain ⟨rfl, hs⟩ := ih rest' h
      exact ⟨rfl, hs⟩

theorem Atom.append_inj {atom atom' : Atom} {s s' : List Char}
    (h : atom.chars ++ s = atom'.chars ++ s') : atom = atom' ∧ s = s' := by
  cases atom with
  | any =>
    cases atom' with
    | any => exact ⟨rfl, (List.cons.inj h).2⟩
    | leaf => simp [chars] at h
  | leaf body =>
    cases atom' with
    | any => simp [chars] at h
    | leaf body' =>
      simp only [chars, List.cons_append, List.append_assoc, List.nil_append, List.cons.injEq,
        true_and] at h
      obtain ⟨hbody, hs⟩ := body.property.append_inj body'.property h
      exact ⟨congrArg leaf (Subtype.ext hbody), hs⟩

theorem Atom.chars_eq_cons (atom : Atom) :
    ∃ c rest, atom.chars = c :: rest ∧ (c = '\x7b' ∨ c = '.') := by
  cases atom with
  | any => exact ⟨_, _, rfl, .inr rfl⟩
  | leaf => exact ⟨_, _, rfl, .inl rfl⟩

theorem Atom.noBlank (atom : Atom) (s : List Char) : NoBlank (atom.chars ++ s) := by
  obtain ⟨c, rest, hc, rfl | rfl⟩ := atom.chars_eq_cons <;> rw [hc] <;> exact noBlank_cons rfl _

theorem positiveChars_eq_cons (dots : Option Blanks) (atom : Atom) :
    ∃ c rest, positiveChars dots atom = c :: rest ∧ (c = '\x7b' ∨ c = '.') := by
  cases dots with
  | none => exact atom.chars_eq_cons
  | some ws => exact ⟨_, _, rfl, .inr rfl⟩

theorem positiveChars_noBlank (dots : Option Blanks) (atom : Atom) (s : List Char) :
    NoBlank (positiveChars dots atom ++ s) := by
  obtain ⟨c, rest, hc, rfl | rfl⟩ := positiveChars_eq_cons dots atom <;> rw [hc] <;>
    exact noBlank_cons rfl _

theorem positiveChars_ne_bang (dots : Option Blanks) (atom : Atom) (s t : List Char) :
    positiveChars dots atom ++ s ≠ '!' :: t := by
  obtain ⟨c, rest, hc, rfl | rfl⟩ := positiveChars_eq_cons dots atom <;> rw [hc] <;> simp

theorem Atom.ne_dots {atom : Atom} {s : List Char} (h : MayFollow atom.isAny s) (t : List Char) :
    atom.chars ++ s ≠ '.' :: '.' :: t := by
  cases atom with
  | any =>
    intro heq
    have hs : s = '.' :: t := (List.cons.inj heq).2
    exact h rfl (congrArg List.head? hs)
  | leaf body => simp [chars]

theorem positiveChars_append_inj {dots dots' : Option Blanks} {atom atom' : Atom} {s s' : List Char}
    (hs : MayFollow (dots.isNone && atom.isAny) s) (hs' : MayFollow (dots'.isNone && atom'.isAny) s')
    (h : positiveChars dots atom ++ s = positiveChars dots' atom' ++ s') :
    dots = dots' ∧ atom = atom' ∧ s = s' := by
  cases dots with
  | none =>
    cases dots' with
    | none => exact ⟨rfl, Atom.append_inj h⟩
    | some ws' => exact absurd h (Atom.ne_dots hs _)
  | some ws =>
    cases dots' with
    | none => exact absurd h.symm (Atom.ne_dots hs' _)
    | some ws' =>
      simp only [positiveChars, marked_some, List.cons_append, List.nil_append, List.append_assoc,
        List.cons.injEq, true_and] at h
      obtain ⟨rfl, hatom⟩ := blanks_append_inj (atom.noBlank s) (atom'.noBlank s') h
      obtain ⟨rfl, rfl⟩ := Atom.append_inj hatom
      exact ⟨rfl, rfl, rfl⟩

theorem Term.append_inj {t t' : Term} {s s' : List Char} (hs : MayFollow t.isOpen s)
    (hs' : MayFollow t'.isOpen s') (h : t.chars ++ s = t'.chars ++ s') : t = t' ∧ s = s' := by
  obtain ⟨bang, dots, atom⟩ := t
  obtain ⟨bang', dots', atom'⟩ := t'
  cases bang with
  | none =>
    cases bang' with
    | none =>
      obtain ⟨rfl, rfl, rfl⟩ := positiveChars_append_inj hs hs' h
      exact ⟨rfl, rfl⟩
    | some ws' => exact absurd h (positiveChars_ne_bang dots atom s _)
  | some ws =>
    cases bang' with
    | none => exact absurd h.symm (positiveChars_ne_bang dots' atom' s' _)
    | some ws' =>
      simp only [chars, marked_some, List.cons_append, List.nil_append, List.append_assoc,
        List.cons.injEq, true_and] at h
      obtain ⟨rfl, hrest⟩ := blanks_append_inj (positiveChars_noBlank dots atom s)
        (positiveChars_noBlank dots' atom' s') h
      obtain ⟨rfl, rfl, rfl⟩ := positiveChars_append_inj hs hs' hrest
      exact ⟨rfl, rfl⟩

theorem Term.noBlank (t : Term) (s : List Char) : NoBlank (t.chars ++ s) := by
  obtain ⟨bang, dots, atom⟩ := t
  cases bang with
  | none => exact positiveChars_noBlank dots atom s
  | some ws => exact noBlank_cons rfl _

theorem Joint.append_inj {joint joint' : Joint} {s s' : List Char} (hs : MayFollow joint.isOpen s)
    (hs' : MayFollow joint'.isOpen s') (h : joint.chars ++ s = joint'.chars ++ s') :
    joint = joint' ∧ s = s' := by
  cases joint with
  | comma ws t =>
    cases joint' with
    | comma ws' t' =>
      simp only [chars, List.cons_append, List.append_assoc, List.cons.injEq, true_and] at h
      obtain ⟨rfl, hterm⟩ := blanks_append_inj (t.noBlank s) (t'.noBlank s') h
      obtain ⟨rfl, rfl⟩ := Term.append_inj hs hs' hterm
      exact ⟨rfl, rfl⟩
    | dots => simp [chars] at h
  | dots ws atom =>
    cases joint' with
    | comma => simp [chars] at h
    | dots ws' atom' =>
      simp only [chars, List.cons_append, List.append_assoc, List.cons.injEq, true_and] at h
      obtain ⟨rfl, hatom⟩ := blanks_append_inj (atom.noBlank s) (atom'.noBlank s') h
      obtain ⟨rfl, rfl⟩ := Atom.append_inj hatom
      exact ⟨rfl, rfl⟩

theorem linksChars_noBlank (links : List Link) : NoBlank (linksChars links) := by
  cases links with
  | nil => exact noBlank_nil
  | cons link rest =>
    obtain ⟨joint, trail⟩ := link
    cases joint <;> exact noBlank_cons rfl _

theorem linksChars_inj {links links' : List Link} (hs : Spaced links) (hs' : Spaced links')
    (h : linksChars links = linksChars links') : links = links' := by
  have hne (link : Link) (rest : List Link) : linksChars (link :: rest) ≠ [] := by
    obtain ⟨joint, trail⟩ := link
    cases joint <;> simp [Joint.chars]
  induction links generalizing links' with
  | nil =>
    cases links' with
    | nil => rfl
    | cons link' rest' => exact absurd h.symm (hne link' rest')
  | cons link rest ih =>
    cases links' with
    | nil => exact absurd h (hne link rest)
    | cons link' rest' =>
      obtain ⟨joint, trail⟩ := link
      obtain ⟨joint', trail'⟩ := link'
      rw [linksChars_cons, linksChars_cons] at h
      obtain ⟨rfl, htrail⟩ := Joint.append_inj hs.1 hs'.1 h
      obtain ⟨rfl, hrest⟩ := blanks_append_inj (linksChars_noBlank rest) (linksChars_noBlank rest') htrail
      obtain rfl := ih hs.2 hs'.2 hrest
      rfl

theorem Derivation.chars_injective {d d' : Derivation} (h : d.chars = d'.chars) : d = d' := by
  obtain ⟨lead, first, trail, links, hfirst, hlinks⟩ := d
  obtain ⟨lead', first', trail', links', hfirst', hlinks'⟩ := d'
  simp only [chars] at h
  obtain ⟨rfl, hterm⟩ := blanks_append_inj (first.noBlank _) (first'.noBlank _) h
  obtain ⟨rfl, htrail⟩ := Term.append_inj hfirst hfirst' hterm
  obtain ⟨rfl, hrest⟩ := blanks_append_inj (linksChars_noBlank links) (linksChars_noBlank links') htrail
  obtain rfl := linksChars_inj hlinks hlinks' hrest
  rfl

end StackQuery.Query.Grammar
