import Mathlib.Data.List.Forall2
import StackQuery.Proofs.Number.Numeral
import StackQuery.Proofs.Regex.Reader
import StackQuery.Regex.Template

/-!
# The grammar of templates

A template is read here as plain text, without a regex: it is a sequence of characters and escapes, some
of which refer to groups. A template is accepted for a regex exactly if it has such a reading, in which
the regex has every group that is referred to; what stands for a match is then put together from the
parts of the reading.
-/
namespace StackQuery.Regex.Template

inductive Part where
  | text (text : List Char)
  | number (number : Nat)
  | name (name : List Char)
  deriving DecidableEq, Repr

open Reader (Takes At)

/-- An escape: what follows the backslash, the part that it is and the text after it. -/
inductive Escape : List Char → Part → List Char → Prop
  | control {c : Char} {n : Nat} {rest : List Char} (hcontrol : controlEscape? c = some n) :
    Escape (c :: rest) (.text [Char.ofNat n]) rest
  | plain {c : Char} {rest : List Char} (hcontrol : controlEscape? c = none)
    (hletter : Text.isAsciiLetter c.toNat = false) (hdigit : c.isDigit = false) :
    Escape (c :: rest) (.text ['\\', c]) rest
  | zero {text ds rest : List Char} (hds : Takes isOctalDigit 2 text ds rest) :
    Escape ('0' :: text) (.text [Char.ofNat (valueOf 8 ds)]) rest
  | code {a b c : Char} {rest : List Char} (ha : isOctalDigit a = true) (hzero : a ≠ '0')
    (hb : isOctalDigit b = true) (hc : isOctalDigit c = true) (hvalue : valueOf 8 [a, b, c] ≤ 255) :
    Escape (a :: b :: c :: rest) (.text [Char.ofNat (valueOf 8 [a, b, c])]) rest
  | one {a : Char} {rest : List Char} (ha : a.isDigit = true) (hzero : a ≠ '0')
    (hrest : ∀ c ∈ rest.head?, c.isDigit = false) : Escape (a :: rest) (.number (valueOf 10 [a])) rest
  | two {a b : Char} {rest : List Char} (ha : a.isDigit = true) (hzero : a ≠ '0') (hb : b.isDigit = true)
    (hrest : isOctalDigit a = true → isOctalDigit b = true → ∀ c ∈ rest.head?, isOctalDigit c = false) :
    Escape (a :: b :: rest) (.number (valueOf 10 [a, b])) rest
  | name {name rest : List Char} (hname : Text.isIdentifier name = true) :
    Escape ('g' :: '<' :: (name ++ '>' :: rest)) (.name name) rest
  | index {name rest : List Char} {n : Nat} (hname : Text.isIdentifier name = false)
    (hnumber : Numeral.readInt name = .ok (.ofNat n)) (hlimit : n < groupLimit) :
    Escape ('g' :: '<' :: (name ++ '>' :: rest)) (.number n) rest

inductive Reads : List Char → List Part → Prop
  | done : Reads [] []
  | plain {c : Char} {rest : List Char} {parts : List Part} (hc : c ≠ '\\') (h : Reads rest parts) :
    Reads (c :: rest) (.text [c] :: parts)
  | escape {text rest : List Char} {part : Part} {parts : List Part} (hescape : Escape text part rest)
    (h : Reads rest parts) : Reads ('\\' :: text) (part :: parts)

/-- The piece that a part is for a regex with these groups. -/
inductive Part.Denotes (groups : Nat) (names : List (String × Nat)) : Part → Piece → Prop
  | text (text : List Char) : Denotes groups names (.text text) (.literal text)
  | number {n : Nat} (hn : n ≤ groups) : Denotes groups names (.number n) (.group n)
  | name {name : List Char} {n : Nat} (hname : names.lookup (String.ofList name) = some n) (hn : n ≤ groups) :
    Denotes groups names (.name name) (.group n)

variable {groups : Nat} {names : List (String × Nat)} {text rest name : List Char} {part : Part}
  {piece : Piece} {r r' : Reader} {c : Char}

theorem Reads.ne_dangling {parts : List Part} (h : Reads rest parts) : rest ≠ ['\\'] := by
  rintro rfl
  cases h with
  | plain hc _ => exact hc rfl
  | escape hescape _ => cases hescape

theorem not_mem_of_isIdentifier {d : Char} (hstart : Text.isIdentifierStart d.toNat = false)
    (hcontinue : Text.isIdentifierContinue d.toNat = false) (h : Text.isIdentifier name = true) : d ∉ name := by
  cases name with
  | nil => exact List.not_mem_nil
  | cons c cs =>
    rw [Text.isIdentifier, Bool.and_eq_true, List.all_eq_true] at h
    intro hmem
    obtain rfl | hmem := List.mem_cons.mp hmem
    · exact Bool.false_ne_true (hstart.symm.trans h.1)
    · exact Bool.false_ne_true (hcontinue.symm.trans (h.2 d hmem))

theorem not_mem_of_readInt {d : Char} (hd : Numeral.isPart d = false) {n : Int}
    (h : Numeral.readInt name = .ok n) : d ∉ name :=
  fun hmem => Bool.false_ne_true (hd.symm.trans (Numeral.isPart_of_readInt h d hmem))

theorem isDigit_of_isOctalDigit (h : isOctalDigit c = true) : c.isDigit = true := by
  simp only [isOctalDigit, Char.isDigit, Bool.and_eq_true, decide_eq_true_eq, ge_iff_le, Char.le_def,
    UInt32.le_iff_toNat_le] at h ⊢
  simp at h ⊢
  omega

theorem Escape.exists_plain (h : Escape (c :: text) part rest) :
    ∃ plain, text = plain ++ rest ∧ '\\' ∉ plain := by
  cases h with
  | control _ => exact ⟨[], rfl, List.not_mem_nil⟩
  | plain _ _ _ => exact ⟨[], rfl, List.not_mem_nil⟩
  | zero hds => exact ⟨_, hds.text_eq, hds.not_mem (by decide)⟩
  | @code _ b d _ _ _ hb hd _ =>
    refine ⟨[b, d], rfl, ?_⟩
    rintro (_ | ⟨_, _ | ⟨_, _ | _⟩⟩)
    · exact absurd hb (by decide)
    · exact absurd hd (by decide)
  | one _ _ _ => exact ⟨[], rfl, List.not_mem_nil⟩
  | @two _ b _ _ _ hb _ =>
    refine ⟨[b], rfl, ?_⟩
    rintro (_ | ⟨_, _ | _⟩)
    exact absurd hb (by decide)
  | @name name _ hname =>
    refine ⟨'<' :: (name ++ ['>']), by simp, ?_⟩
    simpa using not_mem_of_isIdentifier (by decide) (by decide) hname
  | @index name _ _ _ hnumber _ =>
    refine ⟨'<' :: (name ++ ['>']), by simp, ?_⟩
    simpa using not_mem_of_readInt (by decide) hnumber

theorem Escape.count_le (h : Escape (c :: text) part rest) : Token.count rest ≤ Token.count text := by
  obtain ⟨plain, rfl, hplain⟩ := h.exists_plain
  rw [Token.count_append hplain]
  omega

theorem Escape.ne_dangling (h : Escape (c :: text) part rest) (hrest : rest ≠ ['\\']) : text ≠ ['\\'] := by
  obtain ⟨plain, rfl, hplain⟩ := h.exists_plain
  cases plain with
  | nil => exact hrest
  | cons d plain =>
    intro heq
    obtain ⟨rfl, -⟩ := List.cons.inj heq
    exact hplain List.mem_cons_self

theorem failBack_ne_ok {α : Type} {fault : Fault} {back : Nat} {a : α} :
    (failBack r fault back : Reading α) ≠ .ok a := nofun

theorem lift_eq_ok_iff {α : Type} {x : Except SyntaxError α} {a : α} : lift x = .ok a ↔ x = .ok a := by
  cases x <;> simp [lift]

theorem reference_eq_ok_iff {n back : Nat} :
    reference groups n r back = .ok piece ↔ n ≤ groups ∧ piece = .group n := by
  rw [reference]
  split
  · simp only [failBack_ne_ok, false_iff]
    omega
  · simp only [Except.ok.injEq, eq_comm]
    exact ⟨fun h => ⟨by omega, h⟩, And.right⟩

theorem escape_of_named (h : r.At text) (hr : named groups names r = .ok (piece, r')) :
    ∃ part rest, Escape ('g' :: text) part rest ∧ part.Denotes groups names piece ∧ r'.At rest := by
  rw [named] at hr
  split at hr
  · cases hr
  · next hangle =>
    have hhead : text.head? = some '<' := (h.nextIs_iff (by decide)).mp (by simpa using hangle)
    obtain ⟨inner, rfl⟩ := List.head?_eq_some_iff.mp hhead
    simp only [bind_eq_ok_iff, lift_eq_ok_iff] at hr
    obtain ⟨ahead, hahead, ⟨name, last⟩, hname, hr⟩ := hr
    obtain ⟨rest, rfl, hlast⟩ := Reader.of_takeUntil (by decide) (h.of_advance (.single (by decide)) hahead) hname
    split at hr
    · next hidentifier =>
      split at hr
      · next number hnumber =>
        simp only [bind_eq_ok_iff, reference_eq_ok_iff] at hr
        obtain ⟨_, ⟨hle, rfl⟩, hr⟩ := hr
        cases hr
        exact ⟨_, _, .name hidentifier, .name hnumber hle, hlast⟩
      · cases hr
    · next hidentifier =>
      split at hr
      · next number hnumber =>
        split at hr
        · cases hr
        · next hlimit =>
          simp only [bind_eq_ok_iff, reference_eq_ok_iff] at hr
          obtain ⟨_, ⟨hle, rfl⟩, hr⟩ := hr
          cases hr
          exact ⟨_, _, .index (by simpa using hidentifier) hnumber (by omega), .number hle, hlast⟩
      · cases hr

theorem escape_of_numbered (hc : c.isDigit = true) (hzero : c ≠ '0') (h : r.At text)
    (hr : numbered groups c r = .ok (piece, r')) :
    ∃ part rest, Escape (c :: text) part rest ∧ part.Denotes groups names piece ∧ r'.At rest := by
  simp only [numbered, bind_eq_ok_iff, lift_eq_ok_iff] at hr
  obtain ⟨⟨second, last⟩, hsecond, hr⟩ := hr
  obtain ⟨rest, htakes, hlast⟩ := Reader.takes_of_takeWhile (by decide) h hsecond
  cases htakes with
  | stop hrest =>
    rw [if_neg (by simp)] at hr
    simp only [bind_eq_ok_iff, reference_eq_ok_iff] at hr
    obtain ⟨_, ⟨hle, rfl⟩, hr⟩ := hr
    cases hr
    exact ⟨_, text, .one hc hzero hrest, .number hle, hlast⟩
  | @more _ d _ _ _ hd hfull =>
    cases hfull
    split at hr
    · next hcode =>
      simp only [Bool.and_eq_true, List.all_cons, List.all_nil,
        hlast.nextIn_iff (show isOctalDigit '\\' = false by decide)] at hcode
      obtain ⟨⟨-, hoctal, hoctal', -⟩, e, hhead, he⟩ := hcode
      obtain ⟨rest, rfl⟩ := List.head?_eq_some_iff.mp hhead
      simp only [bind_eq_ok_iff, lift_eq_ok_iff] at hr
      obtain ⟨⟨third, ahead⟩, hthird, hr⟩ := hr
      obtain ⟨_, htakes, hahead⟩ := Reader.takes_of_takeWhile (by decide) hlast hthird
      cases htakes with
      | stop hrest => exact absurd he (by simp [hrest e rfl])
      | more _ hfull =>
        cases hfull
        split at hr
        · cases hr
        · next hvalue =>
          cases hr
          exact ⟨_, rest, .code hoctal hzero hoctal' he (by simpa using hvalue), .text _, hahead⟩
    · next hcode =>
      simp only [bind_eq_ok_iff, reference_eq_ok_iff] at hr
      obtain ⟨_, ⟨hle, rfl⟩, hr⟩ := hr
      cases hr
      refine ⟨_, rest, .two hc hzero hd ?_, .number hle, hlast⟩
      intro hoctal hoctal'
      simpa [hoctal, hoctal', hlast.nextIn_iff (show isOctalDigit '\\' = false by decide)] using hcode

theorem escape_of_escape (h : r.At text) (hr : escape groups names c r = .ok (piece, r')) :
    ∃ part rest, Escape (c :: text) part rest ∧ part.Denotes groups names piece ∧ r'.At rest := by
  rw [escape] at hr
  split at hr
  · next hg =>
    obtain rfl := beq_iff_eq.mp hg
    exact escape_of_named h hr
  split at hr
  · next hzero =>
    obtain rfl := beq_iff_eq.mp hzero
    simp only [bind_eq_ok_iff, lift_eq_ok_iff] at hr
    obtain ⟨⟨ds, last⟩, hds, hr⟩ := hr
    cases hr
    obtain ⟨rest, htakes, hlast⟩ := Reader.takes_of_takeWhile (by decide) h hds
    exact ⟨_, rest, .zero htakes, .text _, hlast⟩
  split at hr
  · next hzero hdigit => exact escape_of_numbered hdigit (by simpa using hzero) h hr
  split at hr
  · next n hcontrol =>
    cases hr
    exact ⟨_, text, .control hcontrol, .text _, h⟩
  · next hdigit _ hcontrol =>
    split at hr
    · cases hr
    · next hletter =>
      cases hr
      exact ⟨_, text, .plain hcontrol (by simpa using hletter) (by simpa using hdigit), .text _, h⟩

theorem ne_of_controlEscape? {n : Nat} (h : controlEscape? c = some n) :
    c ≠ 'g' ∧ c ≠ '0' ∧ c.isDigit = false := by
  unfold controlEscape? at h
  split at h <;> first | decide | cases h

theorem escape_of_isDigit (hc : c.isDigit = true) (hzero : c ≠ '0') :
    escape groups names c r = numbered groups c r := by
  have hg : c ≠ 'g' := by
    rintro rfl
    exact absurd hc (by decide)
  simp [escape, hg, hzero, hc]

theorem exists_bracketed (hback : '\\' ∉ name) (hangle : '>' ∉ name) (hne : name ≠ [])
    (h : r.At ('<' :: (name ++ '>' :: rest))) (hrest : rest ≠ ['\\']) :
    ∃ ahead last, r.nextIs '<' = true ∧ r.advance = .ok ahead ∧
      ahead.takeUntil '>' "group name" = .ok (name, last) ∧ last.At rest := by
  have hinner : name ++ '>' :: rest ≠ ['\\'] := by
    intro heq
    have hmem : '>' ∈ ['\\'] := heq ▸ List.mem_append_right name List.mem_cons_self
    exact absurd (List.mem_singleton.mp hmem) (by decide)
  obtain ⟨ahead, hahead, hat⟩ := h.advance (.single (by decide)) hinner
  obtain ⟨last, hlast, hatLast⟩ := Reader.exists_takeUntil (by decide) hback hangle hne hat hrest
  exact ⟨ahead, last, (h.nextIs_iff (by decide)).mpr rfl, hahead, hlast, hatLast⟩

theorem exists_named_of_name (hname : Text.isIdentifier name = true) {n : Nat}
    (hlookup : names.lookup (String.ofList name) = some n) (hle : n ≤ groups)
    (h : r.At ('<' :: (name ++ '>' :: rest))) (hrest : rest ≠ ['\\']) :
    ∃ r', named groups names r = .ok (.group n, r') ∧ r'.At rest := by
  have hback : '\\' ∉ name := not_mem_of_isIdentifier (by decide) (by decide) hname
  have hangle : '>' ∉ name := not_mem_of_isIdentifier (by decide) (by decide) hname
  have hne : name ≠ [] := by
    rintro rfl
    cases hname
  obtain ⟨ahead, last, hnext, hahead, hlast, hat⟩ := exists_bracketed hback hangle hne h hrest
  refine ⟨last, ?_, hat⟩
  rw [named, if_neg (by simp [hnext])]
  simp only [bind_eq_ok_iff, lift_eq_ok_iff]
  refine ⟨ahead, hahead, (name, last), hlast, ?_⟩
  simp only [hname, if_true, hlookup]
  exact bind_eq_ok_iff.mpr ⟨_, reference_eq_ok_iff.mpr ⟨hle, rfl⟩, rfl⟩

theorem exists_named_of_index (hname : Text.isIdentifier name = false) {n : Nat}
    (hnumber : Numeral.readInt name = .ok (.ofNat n)) (hlimit : n < groupLimit) (hle : n ≤ groups)
    (h : r.At ('<' :: (name ++ '>' :: rest))) (hrest : rest ≠ ['\\']) :
    ∃ r', named groups names r = .ok (.group n, r') ∧ r'.At rest := by
  have hback : '\\' ∉ name := not_mem_of_readInt (by decide) hnumber
  have hangle : '>' ∉ name := not_mem_of_readInt (by decide) hnumber
  have hne : name ≠ [] := by
    rintro rfl
    cases hnumber
  obtain ⟨ahead, last, hnext, hahead, hlast, hat⟩ := exists_bracketed hback hangle hne h hrest
  refine ⟨last, ?_, hat⟩
  rw [named, if_neg (by simp [hnext])]
  simp only [bind_eq_ok_iff, lift_eq_ok_iff]
  refine ⟨ahead, hahead, (name, last), hlast, ?_⟩
  simp only [hname, Bool.false_eq_true, if_false, hnumber]
  rw [if_neg (Nat.not_le.mpr hlimit)]
  exact bind_eq_ok_iff.mpr ⟨_, reference_eq_ok_iff.mpr ⟨hle, rfl⟩, rfl⟩

theorem exists_numbered_of_code {a b : Char} (ha : isOctalDigit a = true) (hb : isOctalDigit b = true)
    (hc : isOctalDigit c = true) (hvalue : valueOf 8 [a, b, c] ≤ 255) (h : r.At (b :: c :: rest))
    (hrest : rest ≠ ['\\']) : ∃ r', numbered groups a r = .ok (octal [a, b, c], r') ∧ r'.At rest := by
  have hthird : c :: rest ≠ ['\\'] := by
    intro heq
    cases heq
    exact absurd hc (by decide)
  obtain ⟨ahead, hahead, hat⟩ :=
    Reader.exists_takeWhile (by decide) (.more (isDigit_of_isOctalDigit hb) .full) h hthird
  obtain ⟨last, hlast, hatLast⟩ := Reader.exists_takeWhile (by decide) (.more hc .full) hat hrest
  have hnext : ahead.nextIn isOctalDigit = true := (hat.nextIn_iff (by decide)).mpr ⟨c, rfl, hc⟩
  refine ⟨last, ?_, hatLast⟩
  simp only [numbered, bind_eq_ok_iff, lift_eq_ok_iff]
  refine ⟨([b], ahead), hahead, ?_⟩
  rw [if_pos (by simp [ha, hb, hnext])]
  simp only [bind_eq_ok_iff, lift_eq_ok_iff]
  refine ⟨([c], last), hlast, ?_⟩
  rw [if_neg (by simpa using hvalue)]
  rfl

/-- A digit, and one more if there is one, refer to a group unless they begin a code. -/
theorem exists_numbered_of_group {a : Char} {second : List Char}
    (htakes : Takes (·.isDigit) 1 text second rest)
    (hcode : second ≠ [] → isOctalDigit a = true → second.all isOctalDigit = true →
      ∀ c ∈ rest.head?, isOctalDigit c = false)
    (hle : valueOf 10 (a :: second) ≤ groups) (h : r.At text) (hrest : rest ≠ ['\\']) :
    ∃ r', numbered groups a r = .ok (.group (valueOf 10 (a :: second)), r') ∧ r'.At rest := by
  obtain ⟨last, hlast, hat⟩ := Reader.exists_takeWhile (by decide) htakes h hrest
  refine ⟨last, ?_, hat⟩
  simp only [numbered, bind_eq_ok_iff, lift_eq_ok_iff]
  refine ⟨(second, last), hlast, ?_⟩
  rw [if_neg ?_]
  · exact bind_eq_ok_iff.mpr ⟨_, reference_eq_ok_iff.mpr ⟨hle, rfl⟩, rfl⟩
  · simp only [Bool.and_eq_true, beq_iff_eq, List.length_cons, List.all_cons]
    rintro ⟨⟨hlength, ha, hsecond⟩, hnext⟩
    have hne : second ≠ [] := by
      rintro rfl
      cases hlength
    obtain ⟨c, hc, hoctal⟩ := (hat.nextIn_iff (by decide)).mp hnext
    exact Bool.false_ne_true ((hcode hne ha hsecond c hc).symm.trans hoctal)

theorem exists_escape (he : Escape (c :: text) part rest) (hd : part.Denotes groups names piece) (h : r.At text)
    (hrest : rest ≠ ['\\']) : ∃ r', escape groups names c r = .ok (piece, r') ∧ r'.At rest := by
  cases he with
  | control hcontrol =>
    cases hd
    obtain ⟨hg, hzero, hdigit⟩ := ne_of_controlEscape? hcontrol
    exact ⟨r, by simp [escape, hg, hzero, hdigit, hcontrol, pure, Except.pure], h⟩
  | plain hcontrol hletter hdigit =>
    cases hd
    have hg : c ≠ 'g' := by
      rintro rfl
      exact absurd hletter (by decide)
    have hzero : c ≠ '0' := by
      rintro rfl
      exact absurd hdigit (by decide)
    exact ⟨r, by simp [escape, hg, hzero, hdigit, hcontrol, hletter, pure, Except.pure], h⟩
  | zero hds =>
    cases hd
    obtain ⟨last, hlast, hat⟩ := Reader.exists_takeWhile (by decide) hds h hrest
    exact ⟨last, by simp [escape, hlast, lift, octal, bind, Except.bind, pure, Except.pure], hat⟩
  | code ha hzero hb hc hvalue =>
    cases hd
    rw [escape_of_isDigit (isDigit_of_isOctalDigit ha) hzero]
    exact exists_numbered_of_code ha hb hc hvalue h hrest
  | one ha hzero hstop =>
    cases hd with
    | number hle =>
      rw [escape_of_isDigit ha hzero]
      exact exists_numbered_of_group (.stop hstop) (fun hne => absurd rfl hne) hle h hrest
  | two ha hzero hb hstop =>
    cases hd with
    | number hle =>
      rw [escape_of_isDigit ha hzero]
      exact exists_numbered_of_group (.more hb .full)
        (fun _ hoctal hoctal' => hstop hoctal (by simpa using hoctal')) hle h hrest
  | name hname =>
    cases hd with
    | name hlookup hle =>
      rw [escape, if_pos (beq_self_eq_true _)]
      exact exists_named_of_name hname hlookup hle h hrest
  | index hname hnumber hlimit =>
    cases hd with
    | number hle =>
      rw [escape, if_pos (beq_self_eq_true _)]
      exact exists_named_of_index hname hnumber hlimit hle h hrest

theorem exists_parts {fuel : Nat} {ps : List Piece} (h : r.At text) (hfuel : Token.count text < fuel)
    (hr : pieces groups names fuel r = .ok ps) :
    ∃ parts, Reads text parts ∧ List.Forall₂ (Part.Denotes groups names) parts ps := by
  induction fuel generalizing r text ps with
  | zero => exact absurd hfuel (Nat.not_lt_zero _)
  | succ fuel ih =>
    rw [pieces] at hr
    obtain rfl | ⟨token, rest, hs⟩ := h.nil_or_splits
    · rw [h.peek?_nil] at hr
      cases hr
      exact ⟨[], .done, .nil⟩
    · have hcount := hs.count
      simp only [h.peek? hs, bind_eq_ok_iff, lift_eq_ok_iff] at hr
      obtain ⟨ahead, hahead, hr⟩ := hr
      have hat := h.of_advance hs hahead
      cases hs with
      | @single c _ hc =>
        simp only [bind_eq_ok_iff] at hr
        obtain ⟨more, hmore, hr⟩ := hr
        cases hr
        obtain ⟨parts, hparts, hdenotes⟩ := ih hat (by omega) hmore
        exact ⟨_, .plain hc hparts, .cons (.text _) hdenotes⟩
      | @pair c _ =>
        simp only [bind_eq_ok_iff] at hr
        obtain ⟨⟨piece, last⟩, hescape, more, hmore, hr⟩ := hr
        cases hr
        obtain ⟨part, left, hpart, hdenotes, hlast⟩ := escape_of_escape hat hescape
        have hle := hpart.count_le
        obtain ⟨parts, hparts, hrest⟩ := ih hlast (by omega) hmore
        exact ⟨_, .escape hpart hparts, .cons hdenotes hrest⟩

theorem pieces_of_reads {parts : List Part} (hreads : Reads text parts) {fuel : Nat} {ps : List Piece}
    (hdenotes : List.Forall₂ (Part.Denotes groups names) parts ps) (h : r.At text)
    (hfuel : Token.count text < fuel) : pieces groups names fuel r = .ok ps := by
  induction hreads generalizing r fuel ps with
  | done =>
    cases hdenotes
    obtain ⟨fuel, rfl⟩ := Nat.exists_eq_add_one_of_ne_zero (Nat.ne_of_gt (Nat.zero_lt_of_lt hfuel))
    rw [pieces, h.peek?_nil]
  | @plain c rest parts hc hrest ih =>
    obtain ⟨fuel, rfl⟩ := Nat.exists_eq_add_one_of_ne_zero (Nat.ne_of_gt (Nat.zero_lt_of_lt hfuel))
    obtain ⟨_, more, hpart, hmore, rfl⟩ := List.forall₂_cons_left_iff.mp hdenotes
    cases hpart
    have hs : Token.Splits (c :: rest) [c] rest := .single hc
    have hcount := hs.count
    obtain ⟨ahead, hahead, hat⟩ := h.advance hs hrest.ne_dangling
    simp only [pieces, h.peek? hs, bind_eq_ok_iff, lift_eq_ok_iff]
    exact ⟨ahead, hahead, more, ih hmore hat (by omega), rfl⟩
  | @escape text rest part parts hescape hrest ih =>
    obtain ⟨fuel, rfl⟩ := Nat.exists_eq_add_one_of_ne_zero (Nat.ne_of_gt (Nat.zero_lt_of_lt hfuel))
    obtain ⟨piece, more, hpart, hmore, rfl⟩ := List.forall₂_cons_left_iff.mp hdenotes
    cases text with
    | nil => cases hescape
    | cons c text =>
      have hs : Token.Splits ('\\' :: c :: text) ['\\', c] text := .pair
      have hcount := hs.count
      have hle := hescape.count_le
      obtain ⟨ahead, hahead, hat⟩ := h.advance hs (hescape.ne_dangling hrest.ne_dangling)
      obtain ⟨last, hlast, hatLast⟩ := exists_escape hescape hpart hat hrest.ne_dangling
      simp only [pieces, h.peek? hs, bind_eq_ok_iff, lift_eq_ok_iff]
      exact ⟨ahead, hahead, (piece, last), hlast, more, ih hmore hatLast (by omega), rfl⟩

/-- A template is accepted for a regex if and only if it has a reading in which the regex has all groups
that are referred to; its pieces are those of the reading. -/
theorem parse_eq_ok_iff {template : List Char} {ps : List Piece} :
    parse groups names template = .ok ps ↔
      ∃ parts, Reads template parts ∧ List.Forall₂ (Part.Denotes groups names) parts ps := by
  simp only [parse, bind_eq_ok_iff, lift_eq_ok_iff]
  constructor
  · rintro ⟨r, hr, hps⟩
    have hat := Reader.at_of_ofText hr
    exact exists_parts hat (by rw [hat.length_tokens]; omega) hps
  · rintro ⟨parts, hreads, hdenotes⟩
    obtain ⟨r, hr, hat⟩ := Reader.exists_ofText hreads.ne_dangling
    exact ⟨r, hr, pieces_of_reads hreads hdenotes hat (by rw [hat.length_tokens]; omega)⟩

end StackQuery.Regex.Template
