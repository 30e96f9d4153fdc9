import StackQuery.Regex.Token
import StackQuery.Proofs.Traversal

/-!
# Readers as texts

A reader holds tokens, and it looks one token ahead. What it does is said here of the text that is left:
each step passes over the text that it reads, and fails only where nothing but a backslash would be left.
-/
namespace StackQuery.Regex

namespace Token

/-- The first token of a text and the text after it. -/
inductive Splits : (text token rest : List Char) → Prop
  | single {c : Char} {rest : List Char} (hc : c ≠ '\\') : Splits (c :: rest) [c] rest
  | pair {c : Char} {rest : List Char} : Splits ('\\' :: c :: rest) ['\\', c] rest

/-- The number of tokens of a text. -/
def count (text : List Char) : Nat := (scan text 0).length

variable {text token rest : List Char}

theorem splits_or (text : List Char) :
    text = [] ∨ text = ['\\'] ∨ ∃ token rest, Splits text token rest := by
  rcases text with _ | ⟨c, _ | ⟨d, rest⟩⟩
  · exact .inl rfl
  · by_cases hc : c = '\\'
    · exact .inr (.inl (hc ▸ rfl))
    · exact .inr (.inr ⟨_, _, .single hc⟩)
  · by_cases hc : c = '\\'
    · subst hc
      exact .inr (.inr ⟨_, _, .pair⟩)
    · exact .inr (.inr ⟨_, _, .single hc⟩)

theorem Splits.ne_dangling (h : Splits text token rest) : token ≠ ['\\'] := by
  cases h with
  | single hc => simpa using hc
  | pair => simp

theorem Splits.scan (h : Splits text token rest) (n : Nat) :
    scan text n = ⟨token, n⟩ :: scan rest (n + token.length) := by
  cases h with
  | single hc =>
    rw [Token.scan]
    · rfl
    · exact fun _ _ heq => absurd heq hc
  | pair => rfl

theorem length_scan (text : List Char) (n : Nat) : (scan text n).length = count text := by
  induction hl : text.length using Nat.strongRecOn generalizing text n with
  | ind l ih =>
    rw [count]
    obtain rfl | rfl | ⟨token, rest, hs⟩ := splits_or text
    · rfl
    · rfl
    · have hlt : rest.length < l := by cases hs <;> simp at hl <;> omega
      rw [hs.scan n, hs.scan 0, List.length_cons, List.length_cons, ih _ hlt rest _ rfl, ih _ hlt rest _ rfl]

theorem Splits.count (h : Splits text token rest) : Token.count text = Token.count rest + 1 := by
  rw [Token.count, h.scan, List.length_cons, length_scan]

theorem count_append {plain : List Char} (h : '\\' ∉ plain) :
    count (plain ++ rest) = plain.length + count rest := by
  induction plain with
  | nil => simp
  | cons c plain ih =>
    obtain ⟨hc, hplain⟩ := not_or.mp (mt List.mem_cons.mpr h)
    rw [List.cons_append, (Splits.single (Ne.symm hc)).count, ih hplain, List.length_cons]
    omega

end Token

namespace Reader

open Token (Splits)

/-- A reader stands before a text, which does not begin with a dangling backslash. -/
def At (r : Reader) (text : List Char) : Prop := (∃ n, r.tokens = Token.scan text n) ∧ text ≠ ['\\']

variable {r r' : Reader} {text token rest : List Char}

theorem checked_scan {n length : Nat} (h : text ≠ ['\\']) :
    checked ⟨Token.scan text n, length⟩ = .ok ⟨Token.scan text n, length⟩ := by
  obtain rfl | rfl | ⟨token, rest, hs⟩ := Token.splits_or text
  · rfl
  · exact absurd rfl h
  · rw [hs.scan]
    simp [checked, Token.isDangling, hs.ne_dangling]

theorem at_of_checked {n length : Nat} (h : checked ⟨Token.scan text n, length⟩ = .ok r) : r.At text := by
  by_cases ht : text = ['\\']
  · subst ht
    cases h
  · rw [checked_scan ht] at h
    cases h
    exact ⟨⟨n, rfl⟩, ht⟩

theorem exists_ofText (h : text ≠ ['\\']) : ∃ r, ofText text = .ok r ∧ r.At text :=
  ⟨_, checked_scan h, ⟨0, rfl⟩, h⟩

theorem at_of_ofText (h : ofText text = .ok r) : r.At text := at_of_checked h

namespace At

theorem nil_or_splits (h : r.At text) : text = [] ∨ ∃ token rest, Splits text token rest :=
  (Token.splits_or text).imp_right fun hor => hor.resolve_left h.2

theorem length_tokens (h : r.At text) : r.tokens.length = Token.count text := by
  obtain ⟨⟨n, hn⟩, -⟩ := h
  rw [hn, Token.length_scan]

theorem peek?_nil (h : r.At []) : r.peek? = none := by
  obtain ⟨⟨n, hn⟩, -⟩ := h
  rw [peek?, hn]
  rfl

theorem peek? (h : r.At text) (hs : Splits text token rest) : r.peek? = some token := by
  obtain ⟨⟨n, hn⟩, -⟩ := h
  rw [Reader.peek?, hn, hs.scan]
  rfl

theorem advance_eq (h : r.At text) (hs : Splits text token rest) :
    ∃ n length, r.advance = checked ⟨Token.scan rest n, length⟩ := by
  obtain ⟨⟨n, hn⟩, -⟩ := h
  refine ⟨n + token.length, r.length, ?_⟩
  rw [Reader.advance, hn, hs.scan, List.tail_cons]

theorem advance (h : r.At text) (hs : Splits text token rest) (hrest : rest ≠ ['\\']) :
    ∃ r', r.advance = .ok r' ∧ r'.At rest := by
  obtain ⟨n, length, hadvance⟩ := h.advance_eq hs
  exact ⟨_, hadvance.trans (checked_scan hrest), ⟨n, rfl⟩, hrest⟩

theorem of_advance (h : r.At text) (hs : Splits text token rest) (hr : r.advance = .ok r') : r'.At rest := by
  obtain ⟨n, length, hadvance⟩ := h.advance_eq hs
  exact at_of_checked (hadvance ▸ hr)

theorem nextIn_iff (h : r.At text) {p : Char → Bool} (hp : p '\\' = false) :
    r.nextIn p = true ↔ ∃ c ∈ text.head?, p c = true := by
  obtain rfl | ⟨token, rest, hs⟩ := h.nil_or_splits
  · simp [nextIn, h.peek?_nil]
  · rw [nextIn, h.peek? hs]
    cases hs with
    | single _ => simp
    | pair => simp [hp]

theorem nextIs_iff (h : r.At text) {c : Char} (hc : c ≠ '\\') :
    r.nextIs c = true ↔ text.head? = some c := by
  obtain rfl | ⟨token, rest, hs⟩ := h.nil_or_splits
  · simp [nextIs, h.peek?_nil]
  · rw [nextIs, h.peek? hs]
    cases hs with
    | single _ => simp
    | pair => simpa using hc.symm

end At

/-- At most `n` characters of a class head a text: the characters and the text after them. -/
inductive Takes (p : Char → Bool) : Nat → (text taken rest : List Char) → Prop
  | full {text : List Char} : Takes p 0 text [] text
  | stop {n : Nat} {text : List Char} (h : ∀ c ∈ text.head?, p c = false) : Takes p (n + 1) text [] text
  | more {n : Nat} {c : Char} {text taken rest : List Char} (hc : p c = true) (h : Takes p n text taken rest) :
    Takes p (n + 1) (c :: text) (c :: taken) rest

variable {p : Char → Bool} {n : Nat} {taken : List Char}

theorem Takes.text_eq (h : Takes p n text taken rest) : text = taken ++ rest := by
  induction h with
  | full => rfl
  | stop _ => rfl
  | more _ _ ih => rw [ih, List.cons_append]

theorem Takes.forall_mem (h : Takes p n text taken rest) : ∀ c ∈ taken, p c = true := by
  induction h with
  | full => simp
  | stop _ => simp
  | more hc _ ih => exact List.forall_mem_cons.mpr ⟨hc, ih⟩

theorem Takes.not_mem (h : Takes p n text taken rest) {c : Char} (hc : p c = false) : c ∉ taken :=
  fun hmem => Bool.false_ne_true (hc.symm.trans (h.forall_mem c hmem))

theorem takes_of_takeWhile (hp : p '\\' = false) (h : r.At text) (hr : r.takeWhile p n = .ok (taken, r')) :
    ∃ rest, Takes p n text taken rest ∧ r'.At rest := by
  induction n generalizing r text taken with
  | zero =>
    cases hr
    exact ⟨text, .full, h⟩
  | succ n ih =>
    rw [takeWhile] at hr
    obtain rfl | ⟨token, rest, hs⟩ := h.nil_or_splits
    · rw [h.peek?_nil] at hr
      cases hr
      exact ⟨[], .stop (by simp), h⟩
    · rw [h.peek? hs] at hr
      cases hs with
      | pair =>
        cases hr
        exact ⟨_, .stop (by simpa using hp), h⟩
      | @single c _ hc =>
        dsimp only at hr
        split at hr
        · next hpc =>
          simp only [bind_eq_ok_iff] at hr
          obtain ⟨ahead, hahead, ⟨more, last⟩, hmore, hr⟩ := hr
          cases hr
          obtain ⟨left, htakes, hlast⟩ := ih (h.of_advance (.single hc) hahead) hmore
          exact ⟨left, .more hpc htakes, hlast⟩
        · next hpc =>
          cases hr
          exact ⟨_, .stop (by simpa using hpc), h⟩

theorem exists_takeWhile (hp : p '\\' = false) (ht : Takes p n text taken rest) (h : r.At text)
    (hrest : rest ≠ ['\\']) : ∃ r', r.takeWhile p n = .ok (taken, r') ∧ r'.At rest := by
  induction ht generalizing r with
  | full => exact ⟨r, rfl, h⟩
  | @stop n text hstop =>
    refine ⟨r, ?_, h⟩
    rw [takeWhile]
    obtain rfl | ⟨token, rest, hs⟩ := h.nil_or_splits
    · rw [h.peek?_nil]
    · rw [h.peek? hs]
      cases hs with
      | pair => rfl
      | @single c _ _ =>
        have hc : p c = false := hstop c rfl
        simp [hc]
  | @more n c text taken rest hc htakes ih =>
    have hne : c ≠ '\\' := by
      rintro rfl
      exact Bool.false_ne_true (hp.symm.trans hc)
    have htext : text ≠ ['\\'] := by
      rintro rfl
      cases htakes with
      | full => exact hrest rfl
      | stop _ => exact hrest rfl
      | more hback _ => exact Bool.false_ne_true (hp.symm.trans hback)
    obtain ⟨ahead, hahead, hat⟩ := h.advance (.single hne) htext
    obtain ⟨last, hlast, hatLast⟩ := ih hat hrest
    refine ⟨last, ?_, hatLast⟩
    rw [takeWhile, h.peek? (.single hne)]
    simp only [hc, if_true, hahead, hlast, bind, Except.bind, pure, Except.pure]

variable {terminator : Char} {what : String} {fuel : Nat} {read name : List Char}

theorem of_takeUntilAux (hterminator : terminator ≠ '\\') (h : r.At text)
    (hr : takeUntilAux terminator what fuel read r = .ok (name, r')) :
    ∃ more rest, name = read ++ more ∧ text = more ++ terminator :: rest ∧ r'.At rest := by
  induction fuel generalizing read r text with
  | zero => cases hr
  | succ fuel ih =>
    rw [takeUntilAux] at hr
    obtain rfl | ⟨token, rest, hs⟩ := h.nil_or_splits
    · rw [h.peek?_nil] at hr
      dsimp only at hr
      split at hr <;> cases hr
    · simp only [h.peek? hs, bind_eq_ok_iff] at hr
      obtain ⟨ahead, hahead, hr⟩ := hr
      have hat := h.of_advance hs hahead
      split at hr
      · next htoken =>
        rw [beq_iff_eq] at htoken
        subst htoken
        split at hr
        · cases hr
        · cases hr
          cases hs with
          | single _ => exact ⟨[], rest, (List.append_nil _).symm, rfl, hat⟩
      · obtain ⟨more, left, rfl, rfl, hlast⟩ := ih hat hr
        refine ⟨token ++ more, left, List.append_assoc .., ?_, hlast⟩
        cases hs <;> rfl

theorem of_takeUntil (hterminator : terminator ≠ '\\') (h : r.At text)
    (hr : r.takeUntil terminator what = .ok (name, r')) :
    ∃ rest, text = name ++ terminator :: rest ∧ r'.At rest := by
  obtain ⟨more, rest, rfl, htext, hat⟩ := of_takeUntilAux hterminator h hr
  exact ⟨rest, htext, hat⟩

theorem exists_takeUntilAux (hterminator : terminator ≠ '\\') {more : List Char} (hback : '\\' ∉ more)
    (hmore : terminator ∉ more) (hname : read ++ more ≠ []) (hfuel : more.length < fuel)
    (h : r.At (more ++ terminator :: rest)) (hrest : rest ≠ ['\\']) :
    ∃ r', takeUntilAux terminator what fuel read r = .ok (read ++ more, r') ∧ r'.At rest := by
  induction more generalizing read fuel r with
  | nil =>
    obtain ⟨fuel, rfl⟩ := Nat.exists_eq_add_one_of_ne_zero (Nat.ne_of_gt hfuel)
    rw [List.append_nil] at hname
    obtain ⟨ahead, hahead, hat⟩ := h.advance (.single hterminator) hrest
    refine ⟨ahead, ?_, hat⟩
    rw [takeUntilAux, h.peek? (.single hterminator)]
    simp [hahead, hname, bind, Except.bind, pure, Except.pure]
  | cons c more ih =>
    obtain ⟨fuel, rfl⟩ := Nat.exists_eq_add_one_of_ne_zero (Nat.ne_of_gt (Nat.zero_lt_of_lt hfuel))
    obtain ⟨hc, hback⟩ := not_or.mp (mt List.mem_cons.mpr hback)
    obtain ⟨hct, hmore⟩ := not_or.mp (mt List.mem_cons.mpr hmore)
    have hsplits : Splits (c :: (more ++ terminator :: rest)) [c] (more ++ terminator :: rest) :=
      .single (Ne.symm hc)
    have hdangling : more ++ terminator :: rest ≠ ['\\'] := by
      intro heq
      have hmem : terminator ∈ ['\\'] := heq ▸ List.mem_append_right more List.mem_cons_self
      exact hterminator (List.mem_singleton.mp hmem)
    obtain ⟨ahead, hahead, hat⟩ := h.advance hsplits hdangling
    obtain ⟨last, hlast, hatLast⟩ := @ih ahead fuel (read ++ [c]) hback hmore (by simp)
      (Nat.lt_of_succ_lt_succ hfuel) hat
    refine ⟨last, ?_, hatLast⟩
    rw [List.append_assoc, List.singleton_append] at hlast
    rw [takeUntilAux, h.peek? hsplits]
    simp [hahead, Ne.symm hct, hlast, bind, Except.bind]

theorem exists_takeUntil (hterminator : terminator ≠ '\\') (hback : '\\' ∉ name) (hname : terminator ∉ name)
    (hne : name ≠ []) (h : r.At (name ++ terminator :: rest)) (hrest : rest ≠ ['\\']) :
    ∃ r', r.takeUntil terminator what = .ok (name, r') ∧ r'.At rest := by
  refine exists_takeUntilAux hterminator hback hname hne ?_ h hrest
  rw [h.length_tokens, Token.count_append hback]
  omega

end Reader

end StackQuery.Regex
