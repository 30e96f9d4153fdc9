import StackQuery.Proofs.Query.Reading
import Mathlib.Data.List.TakeWhile

/-!
# Reading by columns

A query can also be read with a cursor: each part of a term looks at the characters at some columns, and
says where the next part begins. Looking at a column at or after the end is an outcome of its own. It never
comes about, and the terms and the fault are those that the automaton finds.
-/
namespace StackQuery.Query

open Expecting (go stop opening)
open Grammar

inductive Halt where
  | fault (located : Located)
  /-- No character stands at a column that is looked at. -/
  | beyond (column : Nat)
  deriving DecidableEq, Repr

namespace Cursor

variable (text : List Char)

def charAt (n : Nat) : Except Halt Char :=
  match text[n]? with
  | some c => .ok c
  | none => .error (.beyond n)

/-- The column after the blanks at a column. -/
def skip (n : Nat) : Nat := n + ((text.drop n).takeWhile Text.isBlank).length

def dotsAt (n : Nat) : Bool := ['.', '.'].isPrefixOf (text.drop n)

/-- The column of the brace that closes a regex, from a column inside a number of braces on. -/
def closing (brace depth n : Nat) : Except Halt Nat :=
  if text.length ≤ n then .error (.fault (.unclosedBrace, brace))
  else
    match charAt text n with
    | .error halt => .error halt
    | .ok c =>
      if c == '\x7b' then closing brace (depth + 1) (n + 1)
      else if c == '\x7d' then
        match depth with
        | 0 => .ok n
        | depth + 1 => closing brace depth (n + 1)
      else if c == '\\' then closing brace depth (n + 2)
      else closing brace depth (n + 1)
  termination_by text.length - n

/-- A term with some marks and an atom at a column, and the column after it. -/
def atomAt (negated skipped : Bool) (n : Nat) : Except Halt (RawTerm × Nat) := do
  let c ← charAt text n
  if c == '\x7b' then
    let brace ← closing text n 0 (n + 1)
    return (⟨negated, skipped, .leaf ((text.take brace).drop (n + 1)) n⟩, brace + 1)
  else if c == '.' then return (⟨negated, skipped, .any⟩, n + 1)
  else throw (.fault (unexpected c .expectedAtom, n))

/-- A term at a column, after its exclamation mark if it has one. -/
def positiveAt (negated : Bool) (n : Nat) : Except Halt (RawTerm × Nat) :=
  if dotsAt text n then
    let atom := skip text (n + 2)
    if text.length ≤ atom then .error (.fault (.missingTerm .dots, n))
    else atomAt text negated true atom
  else atomAt text negated false n

def termAt (n : Nat) : Except Halt (RawTerm × Nat) := do
  let c ← charAt text n
  if c == '!' then
    let first := skip text (n + 1)
    if text.length ≤ first then throw (.fault (.missingTerm .bang, n))
    else
      let c ← charAt text first
      if c == '\x7b' || c == '.' || dotsAt text first then positiveAt text true first
      else throw (.fault (.missingTerm .bang, n))
  else positiveAt text false n

/-- The term that a separator at a column joins to those before it. -/
def linkAt (n : Nat) : Except Halt (RawTerm × Nat) :=
  if dotsAt text n then
    let atom := skip text (n + 2)
    if text.length ≤ atom then .error (.fault (.missingTerm .dots, n))
    else do
      let c ← charAt text atom
      if c == '!' || dotsAt text atom then throw (.fault (.atomAfterDots, atom))
      else atomAt text false true atom
  else do
    let c ← charAt text n
    if c == ',' then
      let term := skip text (n + 1)
      if text.length ≤ term then throw (.fault (.missingTerm .comma, n))
      else termAt text term
    else throw (.fault (unexpected c .expectedSeparator, n))

/-- What is found from a column on is what the automaton reads there, and the cursor moves on. -/
def Agrees (n : Nat) (found : Except Halt (RawTerm × Nat)) (o : Outline) : Prop :=
  match found with
  | .ok (t, next) => n < next ∧ o = precede t (Expecting.separator.read next (text.drop next))
  | .error (.fault located) => o = ([], some located)
  | .error (.beyond _) => False

variable {text} {n : Nat} {c : Char} {state : Expecting} {negated skipped : Bool}

theorem Agrees.mono {m : Nat} {found : Except Halt (RawTerm × Nat)} {o : Outline} (h : Agrees text m found o)
    (hn : n ≤ m) : Agrees text n found o := by
  cases found with
  | error halt => cases halt <;> exact h
  | ok p => exact ⟨Nat.lt_of_le_of_lt hn h.1, h.2⟩

theorem exists_charAt (h : n < text.length) :
    ∃ c, charAt text n = .ok c ∧ text.drop n = c :: text.drop (n + 1) :=
  ⟨text[n], by simp [charAt, h], List.drop_eq_getElem_cons h⟩

theorem drop_of_charAt (h : charAt text n = .ok c) : text.drop n = c :: text.drop (n + 1) := by
  rw [charAt] at h
  cases hget : text[n]? with
  | none =>
    rw [hget] at h
    cases h
  | some d =>
    rw [hget] at h
    cases h
    obtain ⟨hn, rfl⟩ := List.getElem?_eq_some_iff.mp hget
    exact List.drop_eq_getElem_cons hn

theorem agrees_stop {fault : Fault} {column m : Nat} {s : List Char} (h : state.step n c = stop fault column) :
    Agrees text m (.error (.fault (fault, column))) (state.read n (c :: s)) := by
  simp [Agrees, Expecting.read, h, stop]

theorem le_skip (text : List Char) (n : Nat) : n ≤ skip text n := Nat.le_add_right n _

theorem drop_skip (text : List Char) (n : Nat) :
    text.drop (skip text n) = (text.drop n).dropWhile Text.isBlank := by
  rw [skip, ← List.drop_drop]
  exact (congrArg (List.drop _) List.takeWhile_append_dropWhile.symm).trans (List.drop_left' rfl)

theorem read_skip (h : Patient state) (n : Nat) :
    state.read n (text.drop n) = state.read (skip text n) (text.drop (skip text n)) := by
  have hblanks := read_blanks h ⟨(text.drop n).takeWhile Text.isBlank, fun c hc =>
    List.all_eq_true.mp List.all_takeWhile c hc⟩ n ((text.drop n).dropWhile Text.isBlank)
  rw [List.takeWhile_append_dropWhile] at hblanks
  rw [hblanks, drop_skip]
  rfl

theorem noBlank_skip (text : List Char) (n : Nat) : NoBlank (text.drop (skip text n)) := by
  intro c hc
  have h := List.head?_dropWhile_not Text.isBlank (text.drop n)
  rw [← drop_skip, hc] at h
  simpa using h

/-- One more character of a regex is read: it stands at the end of what was read. -/
theorem agrees_closing_cons {found : Except Halt Nat} {brace : Nat} {read : List Char} {o : Outline}
    (hc : text.drop n = c :: text.drop (n + 1))
    (h : Agrees text (n + 1)
      (do let stop ← found
          return (⟨negated, skipped, .leaf ((c :: read).reverse ++ (text.take stop).drop (n + 1)) brace⟩, stop + 1))
      o) :
    Agrees text n
      (do let stop ← found
          return (⟨negated, skipped, .leaf (read.reverse ++ (text.take stop).drop n) brace⟩, stop + 1))
      o := by
  cases found with
  | error halt => exact h.mono (Nat.le_succ n)
  | ok stop =>
    have hstop : n < stop := Nat.lt_of_succ_lt_succ h.1
    have hbody : (text.take stop).drop n = c :: (text.take stop).drop (n + 1) := by
      have hlength : stop - n = stop - (n + 1) + 1 := by omega
      rw [List.drop_take, List.drop_take, hc, hlength, List.take_succ_cons]
    have hread : (c :: read).reverse ++ (text.take stop).drop (n + 1) = read.reverse ++ (text.take stop).drop n := by
      simp [hbody]
    refine ⟨Nat.lt_succ_of_lt hstop, ?_⟩
    have ho := h.2
    rw [hread] at ho
    exact ho

theorem agrees_closing (negated skipped : Bool) (brace depth n : Nat) (read : List Char) :
    Agrees text n
      (do let stop ← closing text brace depth n
          return (⟨negated, skipped, .leaf (read.reverse ++ (text.take stop).drop n) brace⟩, stop + 1))
      ((Expecting.regex negated skipped brace depth false read).read n (text.drop n)) := by
  -- each round of the loop adds a character to what was read, so that is general in the induction
  fun_induction closing text brace depth n generalizing read with
  | case1 depth n h =>
    rw [List.drop_eq_nil_of_le h]
    rfl
  | case2 depth n h halt hc =>
    obtain ⟨c, hc', -⟩ := exists_charAt (Nat.lt_of_not_le h)
    cases hc.symm.trans hc'
  | case3 depth n h c hc hbrace ih =>
    obtain rfl := eq_of_beq hbrace
    have hrest := drop_of_charAt hc
    rw [hrest, read_go rfl]
    exact agrees_closing_cons hrest (ih _)
  | case4 n h c hc hbrace hcloser =>
    obtain rfl := eq_of_beq hcloser
    have hrest := drop_of_charAt hc
    refine ⟨Nat.lt_succ_self n, ?_⟩
    rw [hrest, List.drop_eq_nil_of_le (List.length_take_le n text), List.append_nil]
    rfl
  | case5 n h c hc hbrace hcloser depth ih =>
    obtain rfl := eq_of_beq hcloser
    have hrest := drop_of_charAt hc
    rw [hrest, read_go rfl]
    exact agrees_closing_cons hrest (ih _)
  | case6 depth n h c hc hbrace hcloser hbackslash ih =>
    obtain rfl := eq_of_beq hbackslash
    have hrest := drop_of_charAt hc
    rw [hrest, read_go rfl]
    -- a backslash may stand last: the loop is then past the end, and the automaton still inside the regex
    by_cases hnext : n + 1 < text.length
    · obtain ⟨d, -, hrest'⟩ := exists_charAt hnext
      rw [hrest', read_go rfl]
      exact agrees_closing_cons hrest (agrees_closing_cons hrest' (ih _))
    · rw [List.drop_eq_nil_of_le (Nat.le_of_not_lt hnext), closing.eq_def, if_pos (by omega)]
      rfl
  | case7 depth n h c hc hbrace hcloser hbackslash ih =>
    have hrest := drop_of_charAt hc
    have hstep : (Expecting.regex negated skipped brace depth false read).step n c =
        go (.regex negated skipped brace depth false (c :: read)) := by
      simp only [Expecting.step, Expecting.stepRegex, hbackslash, hbrace, hcloser]
      rfl
    rw [hrest, read_go hstep]
    exact agrees_closing_cons hrest (ih _)

theorem agrees_atomAt (hn : n < text.length)
    (hbrace : state.step n '\x7b' = go (opening negated skipped n))
    (hdot : text.drop n = '.' :: text.drop (n + 1) →
      Agrees text n (.ok (⟨negated, skipped, .any⟩, n + 1)) (state.read n (text.drop n)))
    (hother : ∀ c, text.drop n = c :: text.drop (n + 1) → c ≠ '\x7b' → c ≠ '.' →
      state.step n c = stop (unexpected c .expectedAtom) n) :
    Agrees text n (atomAt text negated skipped n) (state.read n (text.drop n)) := by
  obtain ⟨c, hc, hrest⟩ := exists_charAt hn
  rw [atomAt, hc]
  change Agrees text n (if c == '\x7b' then _ else _) _
  by_cases hcbrace : c = '\x7b'
  · subst hcbrace
    rw [hrest, read_go hbrace]
    exact (agrees_closing negated skipped n 0 (n + 1) []).mono (Nat.le_succ n)
  by_cases hcdot : c = '.'
  · subst hcdot
    exact hdot hrest
  · rw [if_neg (by simpa using hcbrace), if_neg (by simpa using hcdot), hrest]
    exact agrees_stop (hother c hrest hcbrace hcdot)

theorem dotsAt_eq_true_iff : dotsAt text n = true ↔ text.drop n = '.' :: '.' :: text.drop (n + 2) := by
  rw [dotsAt, List.isPrefixOf_iff_prefix]
  constructor
  · rintro ⟨rest, hrest⟩
    have htail : text.drop (n + 2) = rest := by rw [← List.drop_drop, ← hrest]; rfl
    rw [htail, ← hrest]
    rfl
  · intro h
    exact ⟨text.drop (n + 2), h.symm⟩

/-- A dot that is not the first of two is followed by no dot. -/
theorem head?_ne_dot (hdot : text.drop n = '.' :: text.drop (n + 1)) (hdots : ¬ dotsAt text n = true) :
    (text.drop (n + 1)).head? ≠ some '.' := by
  intro hnext
  obtain ⟨rest, hrest⟩ := List.head?_eq_some_iff.mp hnext
  have htail : text.drop (n + 2) = rest := by rw [← List.drop_drop (i := 1), hrest]; rfl
  rw [dotsAt_eq_true_iff, hdot, hrest, htail] at hdots
  exact hdots rfl

theorem agrees_skip (hpatient : Patient state) {fault : Fault} {column : Nat}
    (hfinish : state.finish = ([], some (fault, column))) {found : Except Halt (RawTerm × Nat)}
    (h : skip text n < text.length →
      Agrees text (skip text n) found (state.read (skip text n) (text.drop (skip text n)))) :
    Agrees text n (if text.length ≤ skip text n then .error (.fault (fault, column)) else found)
      (state.read n (text.drop n)) := by
  rw [read_skip hpatient]
  by_cases hend : text.length ≤ skip text n
  · rw [if_pos hend, List.drop_eq_nil_of_le hend]
    exact hfinish
  · rw [if_neg hend]
    exact (h (Nat.lt_of_not_le hend)).mono (le_skip text n)

theorem agrees_leadingDots (negated : Bool) (dots n : Nat) :
    Agrees text n
      (if text.length ≤ skip text n then .error (.fault (.missingTerm .dots, dots))
        else atomAt text negated true (skip text n))
      ((Expecting.leadingDots negated dots).read n (text.drop n)) := by
  refine agrees_skip (patient_leadingDots _ _) rfl fun hn => ?_
  refine agrees_atomAt hn rfl ?_ ?_
  · intro hdot
    refine ⟨Nat.lt_succ_self _, ?_⟩
    rw [hdot]
    exact read_end rfl
  · intro c hc hbrace hdot
    have hblank : Text.isBlank c = false := noBlank_skip text n c (by rw [hc]; rfl)
    simp [Expecting.step, hblank, hbrace, hdot]

theorem agrees_positiveAt (hb : Begins negated state) (hn : n < text.length)
    (hother : ∀ c, text.drop n = c :: text.drop (n + 1) → c ≠ '\x7b' → c ≠ '.' →
      state.step n c = stop (unexpected c .expectedAtom) n) :
    Agrees text n (positiveAt text negated n) (state.read n (text.drop n)) := by
  rw [positiveAt]
  by_cases hdots : dotsAt text n = true
  · rw [if_pos hdots, dotsAt_eq_true_iff.mp hdots, read_go (hb.dot n), read_go rfl]
    exact (agrees_leadingDots negated n (n + 2)).mono (Nat.le_add_right n 2)
  · rw [if_neg hdots]
    refine agrees_atomAt hn (hb.brace n) ?_ hother
    intro hdot
    refine ⟨Nat.lt_succ_self n, ?_⟩
    rw [hdot, read_go (hb.dot n)]
    exact read_termDot negated n (n + 1) (head?_ne_dot hdot hdots)

theorem agrees_termAt (comma : Option Nat) (hn : n < text.length) (hnoBlank : NoBlank (text.drop n)) :
    Agrees text n (termAt text n) ((Expecting.term comma).read n (text.drop n)) := by
  obtain ⟨c, hc, hrest⟩ := exists_charAt hn
  rw [termAt, hc]
  change Agrees text n (if c == '!' then _ else _) _
  by_cases hbang : c = '!'
  · subst hbang
    rw [if_pos (beq_self_eq_true '!'), hrest, read_go rfl]
    refine (agrees_skip (patient_negation n) rfl fun hfirst => ?_).mono (Nat.le_succ n)
    obtain ⟨d, hd, hrest'⟩ := exists_charAt hfirst
    rw [hd]
    change Agrees _ _ (if d == '\x7b' || d == '.' || dotsAt text (skip text (n + 1)) then _ else _) _
    split
    · rename_i hopens
      refine agrees_positiveAt (begins_negation n) hfirst fun e he hbrace hdot => ?_
      obtain ⟨rfl, -⟩ := List.cons.inj (hrest'.symm.trans he)
      -- neither a brace nor a dot would leave two dots, and these begin with one
      have hdots : dotsAt text (skip text (n + 1)) = true := by simpa [hbrace, hdot] using hopens
      rw [dotsAt_eq_true_iff, hrest'] at hdots
      exact absurd (List.cons.inj hdots).1 hdot
    · rename_i hopens
      have hblank : Text.isBlank d = false := noBlank_skip text (n + 1) d (by rw [hrest']; rfl)
      rw [hrest']
      refine agrees_stop ?_
      simp only [Bool.or_eq_true, not_or, beq_iff_eq] at hopens
      simp [Expecting.step, hblank, hopens]
  · rw [if_neg (by simpa using hbang)]
    refine agrees_positiveAt (begins_term comma) hn fun d hd hbrace hdot => ?_
    obtain ⟨rfl, -⟩ := List.cons.inj (hrest.symm.trans hd)
    have hblank : Text.isBlank c = false := hnoBlank c (by rw [hrest]; rfl)
    simp [Expecting.step, hblank, hbang, hbrace, hdot]

theorem agrees_joined (dots : Nat) (hn : n < text.length) (hnoBlank : NoBlank (text.drop n)) :
    Agrees text n
      (do let c ← charAt text n
          if c == '!' || dotsAt text n then throw (.fault (.atomAfterDots, n)) else atomAt text false true n)
      ((Expecting.joiningDots dots).read n (text.drop n)) := by
  obtain ⟨c, hc, hrest⟩ := exists_charAt hn
  rw [hc]
  change Agrees text n (if c == '!' || dotsAt text n then _ else _) _
  by_cases hbang : c = '!'
  · subst hbang
    rw [hrest]
    exact agrees_stop rfl
  by_cases hdots : dotsAt text n = true
  · rw [if_pos (by simp [hdots]), dotsAt_eq_true_iff.mp hdots, read_go rfl]
    exact agrees_stop rfl
  · rw [if_neg (by simp [hbang, hdots])]
    refine agrees_atomAt hn rfl ?_ ?_
    · intro hdot
      refine ⟨Nat.lt_succ_self n, ?_⟩
      rw [hdot, read_go rfl]
      exact read_joinedDot n (n + 1) (head?_ne_dot hdot hdots)
    · intro d hd hbrace hdot
      obtain ⟨rfl, -⟩ := List.cons.inj (hrest.symm.trans hd)
      have hblank : Text.isBlank c = false := hnoBlank c (by rw [hrest]; rfl)
      simp [Expecting.step, hblank, hbang, hbrace, hdot]

theorem agrees_linkAt (hn : n < text.length) (hnoBlank : NoBlank (text.drop n)) :
    Agrees text n (linkAt text n) (Expecting.separator.read n (text.drop n)) := by
  rw [linkAt]
  by_cases hdots : dotsAt text n = true
  · have hdot : Expecting.separator.step n '.' = go (.separatorDot n) := rfl
    rw [if_pos hdots, dotsAt_eq_true_iff.mp hdots, read_go hdot, read_go rfl]
    refine (agrees_skip (patient_joiningDots n) rfl fun hatom => ?_).mono (Nat.le_add_right n 2)
    exact agrees_joined n hatom (noBlank_skip text (n + 2))
  obtain ⟨c, hc, hrest⟩ := exists_charAt hn
  rw [if_neg hdots, hc]
  change Agrees text n (if c == ',' then _ else _) _
  by_cases hcomma : c = ','
  · subst hcomma
    have hstep : Expecting.separator.step n ',' = go (.term (some n)) := rfl
    rw [if_pos (beq_self_eq_true ','), hrest, read_go hstep]
    refine (agrees_skip (patient_term _) rfl fun hterm => ?_).mono (Nat.le_succ n)
    exact agrees_termAt _ hterm (noBlank_skip text (n + 1))
  rw [if_neg (by simpa using hcomma)]
  by_cases hdot : c = '.'
  · subst hdot
    have hnext := head?_ne_dot hrest hdots
    have hstep : Expecting.separator.step n '.' = go (.separatorDot n) := rfl
    rw [hrest, read_go hstep]
    cases htail : text.drop (n + 1) with
    | nil => rfl
    | cons d rest =>
      have hd : d ≠ '.' := fun hd => hnext (by rw [htail, hd]; rfl)
      exact agrees_stop (by simp [Expecting.step, hd, unexpected])
  · have hblank : Text.isBlank c = false := hnoBlank c (by rw [hrest]; rfl)
    rw [hrest]
    exact agrees_stop (by simp [Expecting.step, Expecting.stepSeparator, hblank, hcomma, hdot, stop])

theorem lt_of_linkAt (hn : skip text n < text.length) {t : RawTerm} {next : Nat}
    (h : linkAt text (skip text n) = .ok (t, next)) : skip text n < next := by
  have hagrees := agrees_linkAt hn (noBlank_skip text n)
  rw [h] at hagrees
  exact hagrees.1

/-- The terms from a column after a term on, and why reading ends early. -/
def linksFrom (text : List Char) (n : Nat) : List RawTerm × Option Halt :=
  if _hend : text.length ≤ skip text n then ([], none)
  else
    match _hlink : linkAt text (skip text n) with
    | .error halt => ([], some halt)
    | .ok (t, next) =>
      let tail := linksFrom text next
      (t :: tail.1, tail.2)
  termination_by text.length - n
  decreasing_by
    have hlt := lt_of_linkAt (Nat.lt_of_not_le _hend) _hlink
    have hle := le_skip text n
    omega

/-- The terms of a text, and why reading ends early. -/
def scan (text : List Char) : List RawTerm × Option Halt :=
  if text.all Text.isBlank then ([], some (.fault (.empty, 0)))
  else
    match termAt text (skip text 0) with
    | .error halt => ([], some halt)
    | .ok (t, next) =>
      let tail := linksFrom text next
      (t :: tail.1, tail.2)

/-- An outline as it is found by columns. -/
def ofOutline (o : Outline) : List RawTerm × Option Halt := (o.1, o.2.map .fault)

theorem linksFrom_eq (text : List Char) (n : Nat) :
    linksFrom text n = ofOutline (Expecting.separator.read n (text.drop n)) := by
  fun_induction linksFrom text n with
  | case1 n hend =>
    rw [read_skip patient_separator, List.drop_eq_nil_of_le hend]
    rfl
  | case2 n hend halt hlink =>
    have h := agrees_linkAt (Nat.lt_of_not_le hend) (noBlank_skip text n)
    rw [hlink] at h
    rw [read_skip patient_separator]
    cases halt with
    | beyond column => cases h
    | fault located => rw [h]; rfl
  | case3 n hend t next hlink tail ih =>
    have h := agrees_linkAt (Nat.lt_of_not_le hend) (noBlank_skip text n)
    rw [hlink] at h
    rw [read_skip patient_separator, h.2]
    simp only [tail, ih]
    rfl

theorem length_le_skip_iff (text : List Char) : text.length ≤ skip text 0 ↔ text.all Text.isBlank = true := by
  rw [← List.drop_eq_nil_iff, drop_skip, List.drop_zero, List.dropWhile_eq_nil_iff, List.all_eq_true]

/-- Reading by columns never looks beyond the end, and finds what the automaton finds. -/
theorem scan_eq (text : List Char) : scan text = ofOutline (outline text) := by
  have hread : outline text = (Expecting.term none).read (skip text 0) (text.drop (skip text 0)) := by
    rw [outline, ← read_skip (patient_term none), List.drop_zero]
  rw [scan, hread]
  by_cases hblank : text.all Text.isBlank = true
  · rw [if_pos hblank, List.drop_eq_nil_of_le ((length_le_skip_iff text).mpr hblank)]
    rfl
  · have hstart : skip text 0 < text.length :=
      Nat.lt_of_not_le fun hend => hblank ((length_le_skip_iff text).mp hend)
    have h := agrees_termAt none hstart (noBlank_skip text 0)
    rw [if_neg hblank]
    cases hterm : termAt text (skip text 0) with
    | error halt =>
      rw [hterm] at h
      cases halt with
      | beyond column => cases h
      | fault located => rw [h]; rfl
    | ok found =>
      rw [hterm] at h
      rw [h.2]
      simp only [linksFrom_eq]
      rfl

end Cursor

end StackQuery.Query
