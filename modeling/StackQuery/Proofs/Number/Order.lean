import Mathlib.Algebra.Order.Field.Power
import Mathlib.Algebra.Order.Ring.Rat
import Mathlib.Data.Rat.Cast.Order
import Mathlib.Order.Compare
import Mathlib.Order.WithBot
import Mathlib.Tactic.FieldSimp
import Mathlib.Tactic.Ring
import StackQuery.Number.Basic

/-!
# The order of numbers

Every number but NaN has a place among the rational numbers and two infinities. Numbers are compared by their
places, whole numbers and data alike, so what a comparison finds can be said without fractions; a NaN is never
found less, nor at most.
-/
namespace StackQuery

/-- The rational numbers with a least and a greatest element. -/
abbrev Extended := WithBot (WithTop ℚ)

/-- A rational number among the extended ones. -/
def Extended.ofRat (q : ℚ) : Extended := ((q : WithTop ℚ) : Extended)

theorem Extended.ofRat_lt_ofRat {p q : ℚ} : ofRat p < ofRat q ↔ p < q := by
  rw [ofRat, ofRat, WithBot.coe_lt_coe, WithTop.coe_lt_coe]

theorem Extended.ofRat_le_ofRat {p q : ℚ} : ofRat p ≤ ofRat q ↔ p ≤ q := by
  rw [ofRat, ofRat, WithBot.coe_le_coe, WithTop.coe_le_coe]

theorem Extended.ofRat_strictMono : StrictMono ofRat := fun _ _ h => ofRat_lt_ofRat.mpr h

theorem Extended.ofRat_lt_top (q : ℚ) : ofRat q < ⊤ := WithBot.coe_lt_coe.mpr (WithTop.coe_lt_top q)

theorem Extended.bot_lt_ofRat (q : ℚ) : ⊥ < ofRat q := WithBot.bot_lt_coe _

namespace Binary64

def value (negative : Bool) (significand : Nat) (exponent : Int) : ℚ :=
  (if negative then -1 else 1) * significand * 2 ^ exponent

def place : Binary64 → Option Extended
  | .nan => none
  | .infinite negative => some (if negative then ⊥ else ⊤)
  | .finite negative significand exponent => some (.ofRat (value negative significand exponent))

theorem scaled_snd_pos {num den : Nat} (h : 0 < den) (shift : Int) : 0 < (scaled num den shift).2 := by
  rw [scaled]
  split
  · exact Nat.mul_pos h (Nat.pow_pos Nat.two_pos)
  · exact h

theorem scaled_div (num den : Nat) (shift : Int) :
    ((scaled num den shift).1 : ℚ) / (scaled num den shift).2 = num / den * 2 ^ (-shift) := by
  rw [scaled]
  split
  · next h =>
    obtain ⟨n, rfl⟩ := Int.eq_ofNat_of_zero_le h
    have hpow : ((Nat.pow 2 n : Nat) : ℚ) = 2 ^ n := Nat.cast_pow 2 n
    rw [Int.toNat_natCast, Nat.cast_mul, hpow, zpow_neg, zpow_natCast, div_mul_eq_div_div, div_eq_mul_inv _ (2 ^ n : ℚ)]
  · next h =>
    obtain ⟨n, hn⟩ := Int.eq_ofNat_of_zero_le (show 0 ≤ -shift by omega)
    have hpow : ((Nat.pow 2 n : Nat) : ℚ) = 2 ^ n := Nat.cast_pow 2 n
    rw [hn, Int.toNat_natCast, Nat.cast_mul, hpow, zpow_natCast, mul_div_right_comm]

theorem fraction_snd_pos (negative : Bool) (significand : Nat) (exponent : Int) :
    0 < (fraction negative significand exponent).2 := scaled_snd_pos Nat.one_pos _

theorem fraction_div (negative : Bool) (significand : Nat) (exponent : Int) :
    ((fraction negative significand exponent).1 : ℚ) / (fraction negative significand exponent).2 =
      value negative significand exponent := by
  have hscaled := scaled_div significand 1 (-exponent)
  rw [neg_neg, Nat.cast_one, div_one] at hscaled
  rw [fraction, value]
  cases negative with
  | false => simpa using hscaled
  | true => simpa [neg_div] using hscaled

end Binary64

theorem compare_cross (a c : Int) {b d : Nat} (hb : 0 < b) (hd : 0 < d) :
    compare (a * Int.ofNat d) (c * Int.ofNat b) =
      cmp (Extended.ofRat ((a : ℚ) / b)) (Extended.ofRat ((c : ℚ) / d)) := by
  have hcast (x y : Int) : compare x y = cmp (x : ℚ) (y : ℚ) := by
    rw [Int.cast_strictMono.cmp_map_eq, cmp_eq_compare]
  have hb' : (0 : ℚ) < b := Nat.cast_pos.mpr hb
  have hd' : (0 : ℚ) < d := Nat.cast_pos.mpr hd
  have hleft : ((a * Int.ofNat d : Int) : ℚ) = b * d * (a / b) := by
    rw [Int.cast_mul, Int.ofNat_eq_natCast, Int.cast_natCast]
    field_simp
  have hright : ((c * Int.ofNat b : Int) : ℚ) = b * d * (c / d) := by
    rw [Int.cast_mul, Int.ofNat_eq_natCast, Int.cast_natCast]
    field_simp
  have hmono : StrictMono fun q : ℚ => b * d * q := fun p q h => mul_lt_mul_of_pos_left h (mul_pos hb' hd')
  rw [hcast, hleft, hright, hmono.cmp_map_eq, Extended.ofRat_strictMono.cmp_map_eq]

/-- The order of two places, if there are both. -/
def placeOrder (a b : Option Extended) : Option Ordering := a.bind fun a => b.map (cmp a)

theorem placeOrder_some (a b : Extended) : placeOrder (some a) (some b) = some (cmp a b) := rfl

theorem placeOrder_none_left (b : Option Extended) : placeOrder none b = none := rfl

theorem placeOrder_none_right (a : Extended) : placeOrder (some a) none = none := rfl

theorem placeOrder_of_lt {a b : Extended} (h : a < b) : placeOrder (some a) (some b) = some .lt :=
  congrArg some ((cmp_eq_lt_iff a b).mpr h)

theorem placeOrder_of_gt {a b : Extended} (h : b < a) : placeOrder (some a) (some b) = some .gt :=
  congrArg some ((cmp_eq_gt_iff a b).mpr h)

theorem Binary64.compare?_eq (x y : Binary64) : x.compare? y = placeOrder x.place y.place := by
  cases x with
  | nan => exact compare?_nan_left y
  | infinite s =>
    cases y with
    | nan => rfl
    | infinite t => cases s <;> cases t <;> decide
    | finite t n f =>
      cases s with
      | false => exact (placeOrder_of_gt (Extended.ofRat_lt_top _)).symm
      | true => exact (placeOrder_of_lt (Extended.bot_lt_ofRat _)).symm
  | finite s m e =>
    cases y with
    | nan => rfl
    | infinite t =>
      cases t with
      | false => exact (placeOrder_of_lt (Extended.ofRat_lt_top _)).symm
      | true => exact (placeOrder_of_gt (Extended.bot_lt_ofRat _)).symm
    | finite t n f =>
      rw [place, place, placeOrder_some, ← fraction_div, ← fraction_div,
        ← compare_cross _ _ (fraction_snd_pos s m e) (fraction_snd_pos t n f)]
      rfl

namespace Number

def place : Number → Option Extended
  | .int z => some (.ofRat z)
  | .float x => x.place

theorem compare?_eq (x y : Number) : x.compare? y = placeOrder x.place y.place := by
  have hint (a : Int) : Extended.ofRat a = .ofRat ((a : ℚ) / (1 : Nat)) := by rw [Nat.cast_one, div_one]
  cases x with
  | int a =>
    cases y with
    | int b =>
      rw [place, place, placeOrder_some, hint a, hint b, ← compare_cross a b Nat.one_pos Nat.one_pos]
      simp [compare?]
    | float y =>
      cases y with
      | nan => rfl
      | infinite t =>
        cases t with
        | false => exact (placeOrder_of_lt (Extended.ofRat_lt_top _)).symm
        | true => exact (placeOrder_of_gt (Extended.bot_lt_ofRat _)).symm
      | finite t n f =>
        rw [place, place, Binary64.place, placeOrder_some, ← Binary64.fraction_div, hint a,
          ← compare_cross a _ Nat.one_pos (Binary64.fraction_snd_pos t n f)]
        simp [compare?]
  | float x =>
    cases y with
    | float y => exact x.compare?_eq y
    | int b =>
      cases x with
      | nan => rfl
      | infinite s =>
        cases s with
        | false => exact (placeOrder_of_gt (Extended.ofRat_lt_top _)).symm
        | true => exact (placeOrder_of_lt (Extended.bot_lt_ofRat _)).symm
      | finite s m e =>
        rw [place, place, Binary64.place, placeOrder_some, ← Binary64.fraction_div, hint b,
          ← compare_cross _ b (Binary64.fraction_snd_pos s m e) Nat.one_pos]
        simp [compare?]

theorem lt_eq_true_iff {x y : Number} : x.lt y = true ↔ ∃ a ∈ x.place, ∃ b ∈ y.place, a < b := by
  rw [lt, compare?_eq]
  cases x.place with
  | none => simp [placeOrder_none_left]
  | some a =>
    cases y.place with
    | none => simp [placeOrder_none_right]
    | some b =>
      rw [placeOrder_some, beq_iff_eq, Option.some_inj, cmp_eq_lt_iff]
      simp

theorem le_eq_true_iff {x y : Number} : x.le y = true ↔ ∃ a ∈ x.place, ∃ b ∈ y.place, a ≤ b := by
  rw [le, compare?_eq]
  cases x.place with
  | none => simp [placeOrder_none_left]
  | some a =>
    cases y.place with
    | none => simp [placeOrder_none_right]
    | some b =>
      rw [placeOrder_some, Bool.or_eq_true, beq_iff_eq, beq_iff_eq, Option.some_inj, Option.some_inj, cmp_eq_lt_iff,
        cmp_eq_eq_iff, ← le_iff_lt_or_eq]
      simp

theorem lt_of_le_of_lt {x y z : Number} (hxy : x.le y = true) (hyz : y.lt z = true) : x.lt z = true := by
  obtain ⟨a, ha, b, hb, hab⟩ := le_eq_true_iff.mp hxy
  obtain ⟨b', hb', c, hc, hbc⟩ := lt_eq_true_iff.mp hyz
  obtain rfl := Option.mem_unique hb hb'
  exact lt_eq_true_iff.mpr ⟨a, ha, c, hc, hab.trans_lt hbc⟩

theorem place_eq_none_iff {x : Number} : x.place = none ↔ x = .float .nan := by
  cases x with
  | int z => exact ⟨nofun, nofun⟩
  | float x => cases x <;> simp [place, Binary64.place]

/-- A number is not at most another one if one of them is NaN, or if the other one is less. -/
theorem le_eq_false_iff {x y : Number} :
    x.le y = false ↔ x = .float .nan ∨ y = .float .nan ∨ y.lt x = true := by
  rw [Bool.eq_false_iff, ne_eq, le_eq_true_iff, lt_eq_true_iff, ← place_eq_none_iff, ← place_eq_none_iff]
  cases x.place with
  | none => simp
  | some a => cases y.place <;> simp

end Number

end StackQuery
