import Mathlib.Data.List.TakeWhile
import StackQuery.Number.Numeral
import StackQuery.Proofs.Text.Digit

/-!
# What a numeral is made of

A numeral holds only blanks, a sign, low lines and decimal digits; and decimal digits alone are a numeral,
of the value that they have in base ten.
-/
namespace StackQuery.Numeral

/-- A character that a numeral may hold. -/
def isPart (c : Char) : Bool :=
  isBlank c || c == '+' || c == '-' || c == '_' || Text.isDecimal c.toNat

theorem mem_dropWhile_or {p : Char → Bool} {cs : List Char} {c : Char} (h : c ∈ cs) :
    p c = true ∨ c ∈ cs.dropWhile p := by
  rw [← List.takeWhile_append_dropWhile (p := p) (l := cs), List.mem_append] at h
  exact h.imp_left List.mem_takeWhile_imp

theorem mem_trim_or {cs : List Char} {c : Char} (h : c ∈ cs) : isBlank c = true ∨ c ∈ trim cs := by
  obtain hblank | h := mem_dropWhile_or (p := isBlank) h
  · exact .inl hblank
  · obtain hblank | h := mem_dropWhile_or (p := isBlank) (List.mem_reverse.mpr h)
    · exact .inl hblank
    · exact .inr (List.mem_reverse.mpr h)

theorem mem_splitSign_or {cs : List Char} {c : Char} (h : c ∈ cs) :
    c = '+' ∨ c = '-' ∨ c ∈ (splitSign cs).2 := by
  unfold splitSign
  split
  · exact .inr (List.mem_cons.mp h)
  · exact (List.mem_cons.mp h).imp_right .inr
  · exact .inr (.inr h)

theorem isPart_of_digitRunAux {cs : List Char} {afterDigit : Bool} {acc : List Nat} {ds : Option (List Nat)}
    (h : digitRunAux afterDigit acc cs = (ds, [])) : ∀ c ∈ cs, isPart c = true := by
  induction cs generalizing afterDigit acc with
  | nil => simp
  | cons c cs ih =>
    rw [digitRunAux] at h
    split at h
    · next d hd => exact List.forall_mem_cons.mpr ⟨by simp [isPart, Text.isDecimal, hd], ih h⟩
    · split at h
      · next hlow =>
        have hc : c = '_' := by simpa using (Bool.and_eq_true_iff.mp hlow).1
        exact List.forall_mem_cons.mpr ⟨by simp [isPart, hc], ih h⟩
      · simp at h

theorem isPart_of_readInt {text : List Char} {n : Int} (h : readInt text = .ok n) :
    ∀ c ∈ text, isPart c = true := by
  intro c hc
  rw [readInt] at h
  dsimp only at h
  split at h
  · next ds hrun =>
    obtain hblank | hc := mem_trim_or hc
    · simp [isPart, hblank]
    · obtain rfl | rfl | hc := mem_splitSign_or hc
      · rfl
      · rfl
      · exact isPart_of_digitRunAux hrun c hc
  · cases h

def digitValue (c : Char) : Nat := (Text.decimalValue? c.toNat).getD 0

theorem digitRunAux_of_decimal {cs : List Char} (h : ∀ c ∈ cs, Text.isDecimal c.toNat = true) (acc : List Nat) :
    digitRunAux true acc cs = (some (acc.reverse ++ cs.map digitValue), []) := by
  induction cs generalizing acc with
  | nil => simp [digitRunAux]
  | cons c cs ih =>
    obtain ⟨hc, hcs⟩ := List.forall_mem_cons.mp h
    obtain ⟨d, hd⟩ := Option.isSome_iff_exists.mp hc
    rw [digitRunAux, hd]
    simp [ih hcs, digitValue, hd]

theorem isBlank_of_isDecimal {c : Char} (h : Text.isDecimal c.toNat = true) : isBlank c = false := by
  rw [isBlank, Text.isBlank, Text.isBlankCode_of_isDecimal h, Bool.false_and]

theorem trim_of_decimal {cs : List Char} (h : ∀ c ∈ cs, Text.isDecimal c.toNat = true) : trim cs = cs := by
  have hkeep : ∀ {ds : List Char}, (∀ c ∈ ds, Text.isDecimal c.toNat = true) → ds.dropWhile isBlank = ds := by
    intro ds hds
    cases ds with
    | nil => rfl
    | cons c ds => rw [List.dropWhile_cons, isBlank_of_isDecimal (hds c List.mem_cons_self)]; rfl
  rw [trim, hkeep h, hkeep fun c hc => h c (List.mem_reverse.mp hc), List.reverse_reverse]

theorem splitSign_of_decimal {c : Char} (h : Text.isDecimal c.toNat = true) (cs : List Char) :
    splitSign (c :: cs) = (false, c :: cs) := by
  unfold splitSign
  split
  · next heq =>
    cases heq
    exact absurd h (by decide)
  · next heq =>
    cases heq
    exact absurd h (by decide)
  · rfl

theorem readInt_of_decimal {c : Char} {cs : List Char} (h : ∀ d ∈ c :: cs, Text.isDecimal d.toNat = true)
    (hlength : (c :: cs).length ≤ digitLimit) :
    readInt (c :: cs) = .ok (Int.ofNat (ofDigits ((c :: cs).map digitValue))) := by
  obtain ⟨hc, hcs⟩ := List.forall_mem_cons.mp h
  obtain ⟨d, hd⟩ := Option.isSome_iff_exists.mp hc
  have hrun : digitRun (c :: cs) = (some ((c :: cs).map digitValue), []) := by
    rw [digitRun, digitRunAux, hd]
    simp [digitRunAux_of_decimal hcs, digitValue, hd]
  rw [readInt, trim_of_decimal h, splitSign_of_decimal hc]
  dsimp only
  rw [hrun]
  dsimp only
  rw [if_neg (by rw [List.length_map]; omega), if_neg (by simp)]

end StackQuery.Numeral
