import StackQuery.Number.Rounding

/-!
# Binary floating point of 64 bits

A datum is a signed multiple `significand * 2 ^ exponent`, an infinity, or the one NaN. Every operation
is the exact rational result rounded once to the nearest datum, a tie to the even significand, so no
machine arithmetic is involved. Finite data are kept in lowest form: the significand is below `2 ^ 53`,
and at least `2 ^ 52` unless the exponent is the least one.
-/
namespace StackQuery

/-- A datum of the 64-bit binary format. -/
inductive Binary64 where
  | nan
  | infinite (negative : Bool)
  | finite (negative : Bool) (significand : Nat) (exponent : Int)
  deriving DecidableEq, Repr

namespace Binary64

/-- The exponent of the least positive datum. -/
abbrev minExponent : Int := -1074

/-- The exponent of the greatest finite data. -/
abbrev maxExponent : Int := 971

def zero (negative : Bool) : Binary64 := .finite negative 0 minExponent

/-- The quotient of `num * 2 ^ (-shift)` by `den`, as a pair of natural numbers. -/
def scaled (num den : Nat) (shift : Int) : Nat × Nat :=
  if 0 ≤ shift then (num, den * Nat.pow 2 shift.toNat) else (num * Nat.pow 2 (-shift).toNat, den)

def binade (num den : Nat) : Int :=
  let guess := Int.ofNat num.log2 - Int.ofNat den.log2
  let (n, d) := scaled num den guess
  if n < d then guess - 1 else guess

def ofRatio (negative : Bool) (num den : Nat) : Binary64 :=
  if num == 0 then zero negative
  else
    let exponent := max minExponent (binade num den - 52)
    let (n, d) := scaled num den exponent
    let significand := roundHalfEven n d
    let (significand, exponent) :=
      if significand == Nat.pow 2 53 then (Nat.pow 2 52, exponent + 1) else (significand, exponent)
    if maxExponent < exponent then .infinite negative else .finite negative significand exponent

def ofInt (z : Int) : Binary64 := ofRatio (z < 0) z.natAbs 1

/-- The datum nearest to `± significand * 10 ^ exponent`. Exponents beyond every finite datum are
settled by their size alone. -/
def ofDecimal (negative : Bool) (significand : Nat) (exponent : Int) : Binary64 :=
  if significand == 0 then zero negative
  else
    let magnitude := exponent + Int.ofNat (significand.log2 / 4)
    if 400 < magnitude then .infinite negative
    else if exponent + Int.ofNat significand.log2 < -1100 then zero negative
    else if 0 ≤ exponent then ofRatio negative (significand * Nat.pow 10 exponent.toNat) 1
    else ofRatio negative significand (Nat.pow 10 (-exponent).toNat)

def isNaN : Binary64 → Bool
  | .nan => true
  | _ => false

def isInfinite : Binary64 → Bool
  | .infinite _ => true
  | _ => false

def isFinite : Binary64 → Bool
  | .finite .. => true
  | _ => false

def isNegative : Binary64 → Bool
  | .nan => false
  | .infinite negative => negative
  | .finite negative .. => negative

def isZero : Binary64 → Bool
  | .finite _ significand _ => significand == 0
  | _ => false

/-- Signed numerator over a power of two for a finite significand and exponent. -/
def fraction (negative : Bool) (significand : Nat) (exponent : Int) : Int × Nat :=
  let (n, d) := scaled significand 1 (-exponent)
  (if negative then -Int.ofNat n else Int.ofNat n, d)

def mul : Binary64 → Binary64 → Binary64
  | .nan, _ => .nan
  | _, .nan => .nan
  | .infinite s, y => if y.isZero then .nan else .infinite (s ^^ y.isNegative)
  | x, .infinite s => if x.isZero then .nan else .infinite (x.isNegative ^^ s)
  | .finite s m e, .finite t n f =>
    let (num, den) := scaled (m * n) 1 (-(e + f))
    ofRatio (s ^^ t) num den

/-- The quotient of two data; a quotient by zero is infinite or NaN. -/
def div : Binary64 → Binary64 → Binary64
  | .nan, _ => .nan
  | _, .nan => .nan
  | .infinite _, .infinite _ => .nan
  | .infinite s, y => .infinite (s ^^ y.isNegative)
  | x, .infinite s => zero (x.isNegative ^^ s)
  | .finite s m e, .finite t n f =>
    if n == 0 then
      if m == 0 then .nan else .infinite (s ^^ t)
    else
      let (num, den) := scaled m n (f - e)
      ofRatio (s ^^ t) num den

/-- The sum of two data. A sum of zero is negative only when both terms are. -/
def add : Binary64 → Binary64 → Binary64
  | .nan, _ => .nan
  | _, .nan => .nan
  | .infinite s, .infinite t => if s == t then .infinite s else .nan
  | .infinite s, _ => .infinite s
  | _, .infinite t => .infinite t
  | .finite s m e, .finite t n f =>
    let (a, b) := fraction s m e
    let (c, d) := fraction t n f
    let num := a * Int.ofNat d + c * Int.ofNat b
    if num == 0 then zero (s && t) else ofRatio (num < 0) num.natAbs (b * d)

/-- The order of two data, absent when one is NaN. The two zeros are equal. -/
def compare? : Binary64 → Binary64 → Option Ordering
  | .nan, _ => none
  | _, .nan => none
  | .infinite s, .infinite t => some (if s == t then .eq else if s then .lt else .gt)
  | .infinite s, .finite .. => some (if s then .lt else .gt)
  | .finite .., .infinite t => some (if t then .gt else .lt)
  | .finite s m e, .finite t n f =>
    let (a, b) := fraction s m e
    let (c, d) := fraction t n f
    some (compare (a * Int.ofNat d) (c * Int.ofNat b))

def toBits : Binary64 → Nat
  | .nan => 0x7FF8000000000000
  | .infinite negative => (if negative then Nat.pow 2 63 else 0) + 0x7FF0000000000000
  | .finite negative significand exponent =>
    let sign := if negative then Nat.pow 2 63 else 0
    if significand < Nat.pow 2 52 then sign + significand
    else sign + (exponent + 1075).toNat * Nat.pow 2 52 + (significand - Nat.pow 2 52)

/-- The whole number that a finite datum is equal to, if it is one. -/
def toInt? : Binary64 → Option Int
  | .finite negative significand exponent =>
    let (n, d) := fraction negative significand exponent
    if n % Int.ofNat d == 0 then some (n / Int.ofNat d) else none
  | _ => none

theorem ofRatio_zero (negative : Bool) (den : Nat) : ofRatio negative 0 den = zero negative := rfl

theorem compare?_nan_left (x : Binary64) : compare? .nan x = none := by cases x <;> rfl

end Binary64

end StackQuery
