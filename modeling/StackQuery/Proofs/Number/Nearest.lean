import Mathlib.Data.Int.Log
import Mathlib.Data.Rat.Floor
import StackQuery.Proofs.Number.Magnitude
import StackQuery.Proofs.Number.Order
import StackQuery.Proofs.Traversal

/-!
# The datum nearest to a quotient

The place of the datum of a quotient depends on the quotient alone, and rises with it: more digits are kept of a
smaller quotient, but where the number of digits changes, a power of two is kept. So whole numbers, products,
quotients and percentages of data keep the order of what they are made of.
-/
namespace StackQuery

theorem roundHalfEven_mul_right {k : Nat} (hk : 0 < k) (num den : Nat) :
    roundHalfEven (num * k) (den * k) = roundHalfEven num den := by
  have hmod : 2 * (num * k % (den * k)) = 2 * (num % den) * k := by
    rw [Nat.mul_mod_mul_right, Nat.mul_assoc]
  have hlt : (den * k < 2 * (num % den) * k) = (den < 2 * (num % den)) :=
    propext (Nat.mul_lt_mul_right hk)
  have heq : (2 * (num % den) * k == den * k) = (2 * (num % den) == den) := by
    rw [Bool.eq_iff_iff, beq_iff_eq, beq_iff_eq, Nat.mul_left_inj (Nat.pos_iff_ne_zero.mp hk)]
  rw [roundHalfEven, roundHalfEven, Nat.mul_div_mul_right _ _ hk, hmod]
  simp only [hlt, heq]

theorem roundHalfEven_mono {num num' : Nat} (den : Nat) (h : num ≤ num') :
    roundHalfEven num den ≤ roundHalfEven num' den := by
  have hbounds (n : Nat) : n / den ≤ roundHalfEven n den ∧ roundHalfEven n den ≤ n / den + 1 := by
    rw [roundHalfEven]
    split <;> omega
  obtain heq | hlt := (Nat.div_le_div_right (c := den) h).eq_or_lt
  · have hmod : num % den ≤ num' % den := by
      have := Nat.div_add_mod num den
      have := Nat.div_add_mod num' den
      rw [heq] at *
      omega
    rw [roundHalfEven, roundHalfEven, heq]
    split
    · next hup =>
      rw [if_pos]
      simp only [Bool.or_eq_true, Bool.and_eq_true, decide_eq_true_eq, beq_iff_eq] at hup ⊢
      omega
    · split <;> omega
  · have := (hbounds num).2
    have := (hbounds num').1
    omega

/-- The whole number nearest to a rational number that is not negative; a tie goes to the even neighbour. -/
def nearestWhole (q : ℚ) : Nat := roundHalfEven q.num.toNat q.den

theorem roundHalfEven_le_of_div_le {num den num' den' : Nat} (hden : 0 < den) (hden' : 0 < den')
    (h : (num : ℚ) / den ≤ num' / den') : roundHalfEven num den ≤ roundHalfEven num' den' := by
  have hcross : num * den' ≤ num' * den := by
    rw [div_le_div_iff₀ (Nat.cast_pos.mpr hden) (Nat.cast_pos.mpr hden')] at h
    exact_mod_cast h
  calc roundHalfEven num den = roundHalfEven (num * den') (den * den') :=
        (roundHalfEven_mul_right hden' num den).symm
    _ ≤ roundHalfEven (num' * den) (den * den') := roundHalfEven_mono _ hcross
    _ = roundHalfEven num' den' := by rw [Nat.mul_comm den den', roundHalfEven_mul_right hden]

theorem cast_num_div_den {q : ℚ} (h : 0 ≤ q) : ((q.num.toNat : ℕ) : ℚ) / q.den = q := by
  have hnum : ((q.num.toNat : ℕ) : ℚ) = (q.num : ℚ) := by
    rw [← Int.cast_natCast, Int.toNat_of_nonneg (Rat.num_nonneg.mpr h)]
  rw [hnum, Rat.num_div_den]

theorem nearestWhole_div (num : Nat) {den : Nat} (hden : 0 < den) :
    nearestWhole (num / den) = roundHalfEven num den := by
  have hq : (0 : ℚ) ≤ num / den := div_nonneg num.cast_nonneg den.cast_nonneg
  refine le_antisymm ?_ ?_
  · exact roundHalfEven_le_of_div_le (Rat.den_pos _) hden (cast_num_div_den hq).le
  · exact roundHalfEven_le_of_div_le hden (Rat.den_pos _) (cast_num_div_den hq).ge

theorem nearestWhole_mono {p q : ℚ} (hp : 0 ≤ p) (h : p ≤ q) : nearestWhole p ≤ nearestWhole q := by
  refine roundHalfEven_le_of_div_le (Rat.den_pos _) (Rat.den_pos _) ?_
  rwa [cast_num_div_den hp, cast_num_div_den (hp.trans h)]

theorem nearestWhole_natCast (n : Nat) : nearestWhole n = n := by
  have h := nearestWhole_div n Nat.one_pos
  rw [Nat.cast_one, div_one] at h
  rw [h, roundHalfEven_of_dvd Nat.one_pos (Nat.mod_one n), Nat.div_one]

namespace Binary64

theorem log_eq_of_bounds {q : ℚ} (hq : 0 < q) {e : Int} (hleast : 2 ^ e ≤ q) (hbelow : q < 2 ^ (e + 1)) :
    Int.log 2 q = e := by
  have h₁ := (Int.zpow_le_iff_le_log one_lt_two hq).mp hleast
  have h₂ := (Int.lt_zpow_iff_log_lt one_lt_two hq).mp hbelow
  omega

theorem two_zpow_log_le {q : ℚ} (hq : 0 < q) : 2 ^ Int.log 2 q ≤ q := Int.zpow_log_le_self one_lt_two hq

theorem lt_two_zpow_log_succ (q : ℚ) : q < 2 ^ (Int.log 2 q + 1) := Int.lt_zpow_succ_log_self one_lt_two q

theorem log2_bounds {n : Nat} (hn : 0 < n) :
    (2 : ℚ) ^ (Int.ofNat n.log2) ≤ n ∧ (n : ℚ) < 2 ^ (Int.ofNat n.log2 + 1) := by
  have hleast : 2 ^ n.log2 ≤ n := Nat.log2_self_le hn.ne'
  have hbelow : n < 2 ^ (n.log2 + 1) := Nat.lt_log2_self
  rw [Int.ofNat_eq_natCast]
  exact ⟨by exact_mod_cast hleast, by exact_mod_cast hbelow⟩

theorem binade_eq_log {num den : Nat} (hnum : 0 < num) (hden : 0 < den) :
    binade num den = Int.log 2 ((num : ℚ) / den) := by
  have hden' : (0 : ℚ) < den := Nat.cast_pos.mpr hden
  have hq : (0 : ℚ) < num / den := div_pos (Nat.cast_pos.mpr hnum) hden'
  obtain ⟨hnum₁, hnum₂⟩ := log2_bounds hnum
  obtain ⟨hden₁, hden₂⟩ := log2_bounds hden
  set guess := Int.ofNat num.log2 - Int.ofNat den.log2 with hguess
  have hleast : (2 : ℚ) ^ (guess - 1) ≤ num / den := by
    rw [le_div_iff₀ hden']
    calc (2 : ℚ) ^ (guess - 1) * den ≤ 2 ^ (guess - 1) * 2 ^ (Int.ofNat den.log2 + 1) :=
          mul_le_mul_of_nonneg_left hden₂.le (zpow_nonneg zero_le_two _)
      _ = 2 ^ Int.ofNat num.log2 := by
          rw [← zpow_add₀ two_ne_zero, hguess]
          congr 1
          ring
      _ ≤ num := hnum₁
  have hbelow : (num : ℚ) / den < 2 ^ (guess + 1) := by
    rw [div_lt_iff₀ hden']
    calc (num : ℚ) < 2 ^ (Int.ofNat num.log2 + 1) := hnum₂
      _ = 2 ^ (guess + 1) * 2 ^ Int.ofNat den.log2 := by
          rw [← zpow_add₀ two_ne_zero, hguess]
          congr 1
          ring
      _ ≤ 2 ^ (guess + 1) * den := mul_le_mul_of_nonneg_left hden₁ (zpow_nonneg zero_le_two _)
  -- The guess is too high if the scaled quotient is below one.
  have htest : (scaled num den guess).1 < (scaled num den guess).2 ↔ (num : ℚ) / den < 2 ^ guess := by
    rw [← Nat.cast_lt (α := ℚ), ← div_lt_one (Nat.cast_pos.mpr (scaled_snd_pos hden guess)), scaled_div,
      zpow_neg, ← div_eq_mul_inv, div_lt_one (zpow_pos zero_lt_two _)]
  have hbinade : binade num den = if (num : ℚ) / den < 2 ^ guess then guess - 1 else guess := by
    rw [binade]
    exact if_congr htest rfl rfl
  rw [hbinade]
  split
  · next h => exact (log_eq_of_bounds hq hleast (by rwa [sub_add_cancel])).symm
  · next h => exact (log_eq_of_bounds hq (not_lt.mp h) hbelow).symm

/-- The exponent of the last digit that is kept of a quotient. -/
def lastExponent (q : ℚ) : Int := max minExponent (Int.log 2 q - 52)

/-- The significand that is kept of a quotient; the next power of two is among them. -/
def keptDigits (q : ℚ) : Nat := nearestWhole (q * 2 ^ (-lastExponent q))

/-- The multiple of a power of two nearest to a quotient. -/
def rounded (q : ℚ) : ℚ := keptDigits q * 2 ^ lastExponent q

theorem keptDigits_le {q : ℚ} (hq : 0 ≤ q) : keptDigits q ≤ Nat.pow 2 53 := by
  have hscaled : q * 2 ^ (-lastExponent q) ≤ ((2 ^ 53 : Nat) : ℚ) := by
    have hlog : Int.log 2 q + 1 ≤ 53 + lastExponent q := by
      have := le_max_right minExponent (Int.log 2 q - 52)
      rw [lastExponent]
      omega
    calc q * 2 ^ (-lastExponent q) ≤ 2 ^ (53 + lastExponent q) * 2 ^ (-lastExponent q) :=
          mul_le_mul_of_nonneg_right
            ((lt_two_zpow_log_succ q).le.trans (zpow_le_zpow_right₀ one_le_two hlog))
            (zpow_nonneg zero_le_two _)
      _ = ((2 ^ 53 : Nat) : ℚ) := by
          rw [← zpow_add₀ two_ne_zero, add_neg_cancel_right]
          norm_num
  have h := nearestWhole_mono (mul_nonneg hq (zpow_nonneg zero_le_two _)) hscaled
  rwa [nearestWhole_natCast] at h

theorem le_keptDigits {q : ℚ} (hq : 0 < q) (h : minExponent < lastExponent q) : Nat.pow 2 52 ≤ keptDigits q := by
  have hlast : lastExponent q = Int.log 2 q - 52 := by
    rw [lastExponent] at h ⊢
    omega
  have hscaled : ((2 ^ 52 : Nat) : ℚ) ≤ q * 2 ^ (-lastExponent q) := by
    calc ((2 ^ 52 : Nat) : ℚ) = 2 ^ Int.log 2 q * 2 ^ (-lastExponent q) := by
          rw [← zpow_add₀ two_ne_zero, hlast, neg_sub, add_sub_cancel]
          norm_num
      _ ≤ q * 2 ^ (-lastExponent q) :=
          mul_le_mul_of_nonneg_right (two_zpow_log_le hq) (zpow_nonneg zero_le_two _)
  have h := nearestWhole_mono (Nat.cast_nonneg _) hscaled
  rwa [nearestWhole_natCast] at h

theorem rounded_nonneg (q : ℚ) : 0 ≤ rounded q := mul_nonneg (Nat.cast_nonneg _) (zpow_nonneg zero_le_two _)

theorem rounded_zero : rounded 0 = 0 := by
  have hdigits : keptDigits 0 = 0 := by
    have h := nearestWhole_natCast 0
    rw [Nat.cast_zero] at h
    rw [keptDigits, zero_mul, h]
  rw [rounded, hdigits, Nat.cast_zero, zero_mul]

theorem rounded_mono {p q : ℚ} (hp : 0 < p) (h : p ≤ q) : rounded p ≤ rounded q := by
  have hlast : lastExponent p ≤ lastExponent q :=
    max_le_max le_rfl (Int.sub_le_sub_right (Int.log_mono_right hp h) 52)
  obtain heq | hlt := hlast.eq_or_lt
  · have hdigits : keptDigits p ≤ keptDigits q := by
      rw [keptDigits, keptDigits, heq]
      exact nearestWhole_mono (mul_nonneg hp.le (zpow_nonneg zero_le_two _))
        (mul_le_mul_of_nonneg_right h (zpow_nonneg zero_le_two _))
    rw [rounded, rounded, heq]
    exact mul_le_mul_of_nonneg_right (Nat.cast_le.mpr hdigits) (zpow_nonneg zero_le_two _)
  · -- The two are on either side of a power of two.
    have hq : Nat.pow 2 52 ≤ keptDigits q :=
      le_keptDigits (hp.trans_le h) ((le_max_left _ _).trans_lt hlt)
    calc rounded p ≤ ((2 ^ 53 : Nat) : ℚ) * 2 ^ lastExponent p :=
          mul_le_mul_of_nonneg_right (Nat.cast_le.mpr (keptDigits_le hp.le)) (zpow_nonneg zero_le_two _)
      _ = ((2 ^ 52 : Nat) : ℚ) * 2 ^ (lastExponent p + 1) := by
          rw [zpow_add_one₀ two_ne_zero]
          push_cast
          ring
      _ ≤ ((2 ^ 52 : Nat) : ℚ) * 2 ^ lastExponent q :=
          mul_le_mul_of_nonneg_left (zpow_le_zpow_right₀ one_le_two hlt) (Nat.cast_nonneg _)
      _ ≤ rounded q := mul_le_mul_of_nonneg_right (Nat.cast_le.mpr hq) (zpow_nonneg zero_le_two _)

/-- The least power of two beyond every finite datum. -/
def overflow : ℚ := 2 ^ (1024 : Int)

/-- The place of a magnitude with a sign, which is infinite beyond the finite data. -/
def bounded (negative : Bool) (q : ℚ) : Extended :=
  if overflow ≤ q then (if negative then ⊥ else ⊤) else .ofRat (if negative then -q else q)

/-- The datum that keeps digits at an exponent; the power of two above all digits has the next exponent. -/
def ofDigits (negative : Bool) (digits : Nat) (exponent : Int) : Binary64 :=
  let (significand, exponent) :=
    if digits == Nat.pow 2 53 then (Nat.pow 2 52, exponent + 1) else (digits, exponent)
  if maxExponent < exponent then .infinite negative else .finite negative significand exponent

theorem place_infinite (negative : Bool) :
    (infinite negative).place = some (if negative then ⊥ else ⊤) := rfl

theorem place_finite (negative : Bool) (significand : Nat) (exponent : Int) :
    (finite negative significand exponent).place =
      some (.ofRat (if negative then -(significand * 2 ^ exponent : ℚ) else significand * 2 ^ exponent)) := by
  cases negative <;> simp [place, value]

theorem two_zpow_mul (n : Nat) (e : Int) : ((2 ^ n : Nat) : ℚ) * 2 ^ e = 2 ^ ((n : Int) + e) := by
  rw [zpow_add₀ two_ne_zero, zpow_natCast, Nat.cast_pow, Nat.cast_ofNat]

/-- The place of digits at an exponent, with all digits used unless the exponent is the least. -/
theorem place_ofDigits (negative : Bool) {digits : Nat} {exponent : Int} (hle : digits ≤ Nat.pow 2 53)
    (hge : minExponent < exponent → Nat.pow 2 52 ≤ digits) :
    (ofDigits negative digits exponent).place = some (bounded negative (digits * 2 ^ exponent)) := by
  have hmono {a b : Int} : (2 : ℚ) ^ a ≤ 2 ^ b ↔ a ≤ b := zpow_le_zpow_iff_right₀ one_lt_two
  rw [ofDigits, bounded, overflow]
  by_cases hfull : digits = Nat.pow 2 53
  · have hvalue : (digits : ℚ) * 2 ^ exponent = 2 ^ (53 + exponent) := by
      rw [hfull]
      exact two_zpow_mul 53 exponent
    have hnext : ((Nat.pow 2 52 : Nat) : ℚ) * 2 ^ (exponent + 1) = 2 ^ (53 + exponent) := by
      rw [show 53 + exponent = (52 : Nat) + (exponent + 1) by push_cast; ring]
      exact two_zpow_mul 52 (exponent + 1)
    rw [if_pos (beq_iff_eq.mpr hfull), hvalue]
    dsimp only
    by_cases hlarge : maxExponent < exponent + 1
    · rw [if_pos hlarge, place_infinite, if_pos (hmono.mpr (by simp only [maxExponent] at hlarge; omega))]
    · rw [if_neg hlarge, place_finite, hnext,
        if_neg (mt hmono.mp (by simp only [maxExponent] at hlarge; omega))]
  · rw [if_neg (mt beq_iff_eq.mp hfull)]
    dsimp only
    by_cases hlarge : maxExponent < exponent
    · have hoverflow : (2 : ℚ) ^ (1024 : Int) ≤ digits * 2 ^ exponent := by
        calc (2 : ℚ) ^ (1024 : Int) ≤ 2 ^ ((52 : Nat) + exponent) :=
              hmono.mpr (by simp only [maxExponent] at hlarge; omega)
          _ = ((2 ^ 52 : Nat) : ℚ) * 2 ^ exponent := (two_zpow_mul 52 exponent).symm
          _ ≤ digits * 2 ^ exponent := by
              refine mul_le_mul_of_nonneg_right (Nat.cast_le.mpr (hge ?_)) (zpow_nonneg zero_le_two _)
              simp only [maxExponent, minExponent] at hlarge ⊢
              omega
      rw [if_pos hlarge, place_infinite, if_pos hoverflow]
    · have hbelow : (digits : ℚ) * 2 ^ exponent < 2 ^ (1024 : Int) := by
        calc (digits : ℚ) * 2 ^ exponent < ((2 ^ 53 : Nat) : ℚ) * 2 ^ exponent :=
              mul_lt_mul_of_pos_right (Nat.cast_lt.mpr (lt_of_le_of_ne hle hfull)) (zpow_pos zero_lt_two _)
          _ = 2 ^ ((53 : Nat) + exponent) := two_zpow_mul 53 exponent
          _ ≤ 2 ^ (1024 : Int) := hmono.mpr (by simp only [maxExponent] at hlarge; omega)
      rw [if_neg hlarge, place_finite, if_neg (not_le.mpr hbelow)]

theorem place_ofRatio (negative : Bool) (num : Nat) {den : Nat} (hden : 0 < den) :
    (ofRatio negative num den).place = some (bounded negative (rounded (num / den))) := by
  obtain rfl | hnum := num.eq_zero_or_pos
  · have hzero : ¬ overflow ≤ 0 := by
      rw [overflow]
      exact not_le.mpr (zpow_pos zero_lt_two _)
    rw [ofRatio_zero, zero, place_finite, Nat.cast_zero, zero_div, rounded_zero, bounded, if_neg hzero, zero_mul]
  · have hq : (0 : ℚ) < num / den := div_pos (Nat.cast_pos.mpr hnum) (Nat.cast_pos.mpr hden)
    have hdigits : roundHalfEven (scaled num den (lastExponent (num / den))).1
        (scaled num den (lastExponent (num / den))).2 = keptDigits (num / den) := by
      rw [← nearestWhole_div _ (scaled_snd_pos hden _), scaled_div, keptDigits]
    have hofRatio : ofRatio negative num den =
        ofDigits negative (keptDigits (num / den)) (lastExponent (num / den)) := by
      rw [ofRatio, if_neg (by simp [hnum.ne']), binade_eq_log hnum hden, ofDigits, ← hdigits]
      rfl
    rw [hofRatio, place_ofDigits negative (keptDigits_le hq.le) (le_keptDigits hq), rounded]

theorem bounded_false (q : ℚ) : bounded false q = if overflow ≤ q then ⊤ else .ofRat q := rfl

theorem bounded_mono {p q : ℚ} (h : p ≤ q) : bounded false p ≤ bounded false q := by
  rw [bounded_false, bounded_false]
  by_cases hq : overflow ≤ q
  · rw [if_pos hq]
    exact le_top
  · rw [if_neg hq, if_neg fun hp => hq (hp.trans h)]
    exact Extended.ofRat_le_ofRat.mpr h

theorem ofRatio_cases (negative : Bool) (num den : Nat) :
    ofRatio negative num den = .infinite negative ∨ ∃ m e, ofRatio negative num den = .finite negative m e := by
  have hpick (c : Prop) [Decidable c] (m : Nat) (e : Int) :
      (if c then infinite negative else finite negative m e) = .infinite negative ∨
        ∃ m' e', (if c then infinite negative else finite negative m e) = .finite negative m' e' := by
    by_cases hc : c
    · exact .inl (if_pos hc)
    · exact .inr ⟨m, e, if_neg hc⟩
  rw [ofRatio]
  split
  · exact .inr ⟨0, minExponent, rfl⟩
  · exact hpick _ _ _

theorem ofRatio_of_overflow {num den : Nat} (hden : 0 < den) (h : overflow ≤ rounded (num / den)) :
    ofRatio false num den = .infinite false := by
  obtain hx | ⟨m, e, hx⟩ := ofRatio_cases false num den
  · exact hx
  · have hplace := place_ofRatio false num hden
    rw [hx, place_finite, bounded_false, if_pos h] at hplace
    exact absurd (Option.some.inj hplace) (Extended.ofRat_lt_top _).ne

theorem exists_ofRatio_finite {num den : Nat} (hden : 0 < den) (h : ¬ overflow ≤ rounded (num / den)) :
    ∃ m e, ofRatio false num den = .finite false m e ∧ (m * 2 ^ e : ℚ) = rounded (num / den) := by
  have hplace := place_ofRatio false num hden
  rw [bounded_false, if_neg h] at hplace
  obtain hx | ⟨m, e, hx⟩ := ofRatio_cases false num den
  · rw [hx, place_infinite] at hplace
    exact absurd (Option.some.inj hplace) (Extended.ofRat_lt_top _).ne'
  · rw [hx, place_finite] at hplace
    exact ⟨m, e, hx, Extended.ofRat_strictMono.injective (Option.some.inj hplace)⟩

theorem mul_finite (m n : Nat) (e f : Int) : ∃ num den : Nat,
    0 < den ∧ (num / den : ℚ) = m * 2 ^ e * (n * 2 ^ f) ∧
    mul (.finite false m e) (.finite false n f) = ofRatio false num den := by
  refine ⟨(scaled (m * n) 1 (-(e + f))).1, _, scaled_snd_pos Nat.one_pos (-(e + f)), ?_, rfl⟩
  rw [scaled_div, neg_neg, zpow_add₀ two_ne_zero, Nat.cast_mul, Nat.cast_one, div_one]
  ring

theorem div_finite (m : Nat) {n : Nat} (hn : 0 < n) (e f : Int) :
    ∃ num den : Nat, 0 < den ∧ (num / den : ℚ) = m * 2 ^ e / (n * 2 ^ f) ∧
      div (.finite false m e) (.finite false n f) = ofRatio false num den := by
  refine ⟨(scaled m n (f - e)).1, (scaled m n (f - e)).2, scaled_snd_pos hn (f - e), ?_, ?_⟩
  · rw [scaled_div, neg_sub, zpow_sub₀ two_ne_zero, mul_div_mul_comm]
  · rw [div, if_neg (by simp [hn.ne'])]
    rfl

theorem rounded_natCast {n : Nat} (h : n < 2 ^ 53) : rounded n = n := by
  obtain rfl | hpos := n.eq_zero_or_pos
  · rw [Nat.cast_zero, rounded_zero]
  · have hlog : 0 ≤ Int.log 2 (n : ℚ) ∧ Int.log 2 (n : ℚ) ≤ 52 := by
      rw [Int.log_natCast]
      have := Nat.log_lt_of_lt_pow hpos.ne' h
      omega
    obtain ⟨k, hk⟩ := Int.eq_ofNat_of_zero_le (show 0 ≤ -lastExponent n by
      rw [lastExponent, minExponent]
      omega)
    have hscaled : (n : ℚ) * 2 ^ (-lastExponent n) = ((n * 2 ^ k : Nat) : ℚ) := by
      rw [hk, zpow_natCast]
      push_cast
      rfl
    have hdigits : keptDigits n = n * 2 ^ k := by rw [keptDigits, hscaled, nearestWhole_natCast]
    rw [rounded, hdigits, ← hscaled, mul_assoc, ← zpow_add₀ two_ne_zero, neg_add_cancel, zpow_zero, mul_one]

theorem place_ofInt (z : Int) : (ofInt z).place = some (bounded (z < 0) (rounded z.natAbs)) := by
  have h := place_ofRatio (z < 0) z.natAbs Nat.one_pos
  rwa [Nat.cast_one, div_one] at h

theorem isInfinite_eq_false_iff {x : Binary64} {q : ℚ} (h : x.place = some (bounded false q)) :
    x.isInfinite = false ↔ ¬ overflow ≤ q := by
  rw [bounded_false] at h
  by_cases hq : overflow ≤ q
  · rw [if_pos hq] at h
    cases x with
    | nan => cases h
    | infinite s => exact ⟨nofun, fun hnot => absurd hq hnot⟩
    | finite s m e => exact absurd (Option.some.inj h) (Extended.ofRat_lt_top _).ne
  · rw [if_neg hq] at h
    cases x with
    | nan => cases h
    | infinite s =>
      cases s
      · exact absurd (Option.some.inj h) (Extended.ofRat_lt_top _).ne'
      · exact absurd (Option.some.inj h) (Extended.bot_lt_ofRat _).ne
    | finite s m e => exact ⟨fun _ => hq, fun _ => rfl⟩

/-- The datum of a whole number that is not negative has the value of its rounding, if it is finite. -/
theorem exists_ofInt_finite {n : Nat} (h : (ofInt n).isInfinite = false) :
    ∃ m e, ofInt n = .finite false m e ∧ (m * 2 ^ e : ℚ) = rounded n := by
  have hofInt : ofInt n = ofRatio false n 1 := by
    rw [ofInt, Int.natAbs_natCast, decide_eq_false (by omega)]
  have hone : ((n : ℚ) / (1 : Nat)) = n := by rw [Nat.cast_one, div_one]
  have hplace := place_ofRatio false n Nat.one_pos
  rw [hofInt] at h ⊢
  rw [hone] at hplace
  have hbelow : ¬ overflow ≤ rounded ((n : ℚ) / (1 : Nat)) := by
    rw [hone]
    exact (isInfinite_eq_false_iff hplace).mp h
  obtain ⟨m, e, hx, hvalue⟩ := exists_ofRatio_finite Nat.one_pos hbelow
  exact ⟨m, e, hx, by rw [hvalue, hone]⟩

end Binary64

open Binary64

/-- The place of the percentage that a rounded count is of a rounded total. -/
def percentPlace (count total : ℚ) : Extended :=
  if overflow ≤ rounded (count * 100) then ⊤ else bounded false (rounded (rounded (count * 100) / total))

theorem rounded_mono_of_nonneg {p q : ℚ} (hp : 0 ≤ p) (h : p ≤ q) : rounded p ≤ rounded q := by
  obtain rfl | hpos := hp.eq_or_lt
  · rw [rounded_zero]
    exact rounded_nonneg q
  · exact rounded_mono hpos h

theorem percentPlace_mono {a b total : ℚ} (ha : 0 ≤ a) (hab : a ≤ b) (htotal : 0 < total) :
    percentPlace a total ≤ percentPlace b total := by
  have hproduct : rounded (a * 100) ≤ rounded (b * 100) :=
    rounded_mono_of_nonneg (mul_nonneg ha (by norm_num)) (mul_le_mul_of_nonneg_right hab (by norm_num))
  rw [percentPlace, percentPlace]
  by_cases hb : overflow ≤ rounded (b * 100)
  · rw [if_pos hb]
    exact le_top
  · rw [if_neg hb, if_neg fun h => hb (h.trans hproduct)]
    exact bounded_mono (rounded_mono_of_nonneg (div_nonneg (rounded_nonneg _) htotal.le)
      (div_le_div_of_nonneg_right hproduct htotal.le))

theorem Number.ofIntExact_eq_ok {z : Int} {x : Binary64} (h : ofIntExact z = .ok x) :
    x = Binary64.ofInt z ∧ (Binary64.ofInt z).isInfinite = false := by
  rw [ofIntExact] at h
  split at h
  · cases h
  · next hfinite => exact ⟨(Except.ok.inj h).symm, by simpa using hfinite⟩

/-- A product with a hundred and a quotient of finite data, each rounded once. -/
theorem place_mul_hundred_div (m : Nat) (e : Int) {n : Nat} (hn : 0 < n) (f : Int) :
    (((Binary64.finite false m e).mul (ofInt 100)).div (.finite false n f)).place =
      some (percentPlace (m * 2 ^ e) (n * 2 ^ f)) := by
  obtain ⟨c, k, hhundred, hc⟩ : ∃ c k, ofInt 100 = .finite false c k ∧ (c * 2 ^ k : ℚ) = 100 :=
    ⟨100 * 2 ^ 46, -46, by decide +kernel, by norm_num⟩
  obtain ⟨num, den, hden, hquotient, hmul⟩ := mul_finite m c e k
  rw [hhundred, hmul, percentPlace]
  rw [hc] at hquotient
  by_cases hlarge : overflow ≤ rounded (m * 2 ^ e * 100)
  · rw [ofRatio_of_overflow hden (by rwa [hquotient]), if_pos hlarge]
    rfl
  · obtain ⟨p, g, hp, hvalue⟩ := exists_ofRatio_finite hden (by rwa [hquotient])
    obtain ⟨num', den', hden', hquotient', hdiv⟩ := div_finite p hn g f
    rw [hp, hdiv, place_ofRatio false num' hden', hquotient', hvalue, hquotient, if_neg hlarge]

theorem place_percent {count total : Nat} (htotal : 0 < total) {x : Binary64} (h : percent count total = .ok x) :
    x.place = some (percentPlace (rounded count) (rounded total)) ∧ 0 < rounded (total : ℚ) := by
  rw [percent, if_neg (by omega)] at h
  obtain ⟨part, hpart, h⟩ := bind_eq_ok_iff.mp h
  obtain ⟨whole, hwhole, h⟩ := bind_eq_ok_iff.mp h
  cases h
  obtain ⟨hpartEq, hpartFinite⟩ := Number.ofIntExact_eq_ok hpart
  obtain ⟨hwholeEq, hwholeFinite⟩ := Number.ofIntExact_eq_ok hwhole
  obtain ⟨m, e, hm, hmvalue⟩ := exists_ofInt_finite hpartFinite
  obtain ⟨n, f, hn, hnvalue⟩ := exists_ofInt_finite hwholeFinite
  have hpos : 0 < rounded (total : ℚ) := by
    calc (0 : ℚ) < rounded (1 : Nat) := by
          rw [rounded_natCast (by norm_num)]
          norm_num
      _ ≤ rounded total := rounded_mono (by norm_num) (Nat.cast_le.mpr htotal)
  have hsignificand : 0 < n := by
    refine Nat.pos_of_ne_zero fun hzero => ?_
    rw [hzero, Nat.cast_zero, zero_mul] at hnvalue
    exact hpos.ne hnvalue
  rw [hpartEq, hwholeEq, hm, hn, place_mul_hundred_div m e hsignificand f, hmvalue, hnvalue]
  exact ⟨rfl, hpos⟩

theorem percent_le_percent {a b total : Int} (ha : 0 ≤ a) (hab : a ≤ b) {x y : Binary64}
    (hx : percent a total = .ok x) (hy : percent b total = .ok y) : (Number.float x).le (.float y) = true := by
  obtain hnone | htotal := le_or_gt total 0
  · rw [percent_of_total_nonpos hnone] at hx hy
    cases hx
    cases hy
    decide +kernel
  · obtain ⟨m, rfl⟩ := Int.eq_ofNat_of_zero_le ha
    obtain ⟨n, rfl⟩ := Int.eq_ofNat_of_zero_le (ha.trans hab)
    obtain ⟨t, rfl⟩ := Int.eq_ofNat_of_zero_le htotal.le
    have ht : 0 < t := by omega
    obtain ⟨hxplace, hpos⟩ := place_percent ht hx
    obtain ⟨hyplace, -⟩ := place_percent ht hy
    refine Number.le_eq_true_iff.mpr ⟨_, hxplace, _, hyplace, ?_⟩
    exact percentPlace_mono (rounded_nonneg _)
      (rounded_mono_of_nonneg m.cast_nonneg (Nat.cast_le.mpr (by omega))) hpos

theorem isInfinite_ofInt_of_le {a b : Int} (ha : 0 ≤ a) (hab : a ≤ b) (h : (ofInt b).isInfinite = false) :
    (ofInt a).isInfinite = false := by
  have hplace (z : Int) (hz : 0 ≤ z) : (ofInt z).place = some (bounded false (rounded z.natAbs)) := by
    rw [place_ofInt, decide_eq_false (by omega)]
  rw [isInfinite_eq_false_iff (hplace b (ha.trans hab))] at h
  rw [isInfinite_eq_false_iff (hplace a ha)]
  exact fun hlarge => h (hlarge.trans
    (rounded_mono_of_nonneg (Nat.cast_nonneg _) (Nat.cast_le.mpr (by omega))))

end StackQuery
