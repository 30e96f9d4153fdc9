import StackQuery.Number.Binary64

/-!
# Decimal text of binary data

Two exact printers: a fixed number of places, where the exact value is rounded half to even, and the
shortest digits that read back as the same datum.
-/
namespace StackQuery

def digits (n : Nat) : List Char := Nat.toDigits 10 n

namespace Binary64

/-- The digits of `n` with a point before the last `places` of them. -/
def pointed (n places : Nat) : List Char :=
  if places == 0 then digits n
  else
    let ds := digits n
    let ds := List.replicate (places + 1 - ds.length) '0' ++ ds
    ds.take (ds.length - places) ++ '.' :: ds.drop (ds.length - places)

def toFixed (x : Binary64) (places : Nat) : String :=
  match x with
  | .nan => "nan"
  | .infinite negative => if negative then "-inf" else "inf"
  | .finite negative significand exponent =>
    let (num, den) := scaled (significand * Nat.pow 10 places) 1 (-exponent)
    let sign := if negative then ['-'] else []
    String.ofList (sign ++ pointed (roundHalfEven num den) places)

/-- The exponent of the leading decimal digit of `num / den`: the greatest `k` with `10 ^ k` at most the
quotient, searched downwards from an upper bound. -/
def decade (num den : Nat) : Int :=
  let estimate := (binade num den * 30103) / 100000 + 1
  let atMost (k : Int) : Bool :=
    if 0 ≤ k then den * Nat.pow 10 k.toNat ≤ num else den ≤ num * Nat.pow 10 (-k).toNat
  if atMost estimate then estimate else if atMost (estimate - 1) then estimate - 1 else estimate - 2

/-- The interval of numbers that round to a positive datum, as numerators over one denominator:
lower end, value, upper end. The gap below a power of two is half the gap above it. -/
def roundingInterval (significand : Nat) (exponent : Int) : Nat × Nat × Nat × Nat :=
  let narrow := significand == Nat.pow 2 52 && minExponent < exponent
  let (unit, den) := scaled 1 4 (-exponent)
  (significand * 4 * unit - (if narrow then unit else 2 * unit), significand * 4 * unit,
    significand * 4 * unit + 2 * unit, den)

/-- The digits and the exponent of their last place for the shortest decimal in the interval, tried with
`count` digits upwards: of two decimals with equally few digits the nearer one. -/
def shortestFrom (lower value upper den : Nat) (closed : Bool) (top : Int) :
    (tries count : Nat) → Nat × Int
  | 0, _ => (value / den, 0)
  | tries + 1, count =>
    let place := top - Int.ofNat count + 1
    let (p, q) := if 0 ≤ place then (Nat.pow 10 place.toNat, 1) else (1, Nat.pow 10 (-place).toNat)
    -- a decimal `d` stands for `d * p / q`; numerators over `den * q`
    let below := value * q / (den * p)
    let inside (d : Nat) : Bool :=
      let n := d * p * den
      if closed then lower * q ≤ n && n ≤ upper * q else lower * q < n && n < upper * q
    let distanceBelow := value * q - below * p * den
    let distanceAbove := (below + 1) * p * den - value * q
    let nearestBelow := distanceBelow < distanceAbove ||
      (distanceBelow == distanceAbove && below % 2 == 0)
    if inside below && (nearestBelow || !inside (below + 1)) then (below, place)
    else if inside (below + 1) then (below + 1, place)
    else shortestFrom lower value upper den closed top tries (count + 1)

/-- A text of digits without its trailing zeros, with the exponent raised to match. -/
def stripZeros : (fuel : Nat) → Nat → Int → Nat × Int
  | 0, n, e => (n, e)
  | fuel + 1, n, e => if n != 0 && n % 10 == 0 then stripZeros fuel (n / 10) (e + 1) else (n, e)

/-- The shortest decimal that reads back as the positive datum: its digits and the exponent of their
last place. -/
def shortest (significand : Nat) (exponent : Int) : Nat × Int :=
  let (lower, value, upper, den) := roundingInterval significand exponent
  let (n, e) := shortestFrom lower value upper den (significand % 2 == 0) (decade value den) 17 1
  stripZeros 20 n e

/-- How a shortest decimal is laid out. -/
structure Layout where
  /-- Leading digits at or above this power of ten are written with an exponent. -/
  scientificFrom : Int
  /-- Leading digits below this power of ten are written with an exponent. -/
  positionalFrom : Int
  exponentWidth : Nat

/-- Positional from `10 ^ -4` up to `10 ^ 16`, else an exponent with a sign and two digits. -/
def standardLayout : Layout := ⟨16, -4, 2⟩

def Layout.render (layout : Layout) (n : Nat) (e : Int) : List Char :=
  let ds := digits n
  let top := e + Int.ofNat ds.length - 1
  if layout.positionalFrom ≤ top && top < layout.scientificFrom then
    if 0 ≤ e then ds ++ List.replicate e.toNat '0' ++ ['.', '0']
    else if 0 ≤ top then
      ds.take (top.toNat + 1) ++ '.' :: ds.drop (top.toNat + 1)
    else '0' :: '.' :: (List.replicate (-top - 1).toNat '0' ++ ds)
  else
    let mantissa := match ds with
      | [] => []
      | [d] => [d]
      | d :: rest => d :: '.' :: rest
    let power := digits top.natAbs
    let power := List.replicate (layout.exponentWidth - power.length) '0' ++ power
    mantissa ++ 'e' :: (if top < 0 then '-' else '+') :: power

def toShortest (x : Binary64) : String :=
  match x with
  | .nan => "nan"
  | .infinite negative => if negative then "-inf" else "inf"
  | .finite negative significand exponent =>
    let sign := if negative then ['-'] else []
    if significand == 0 then String.ofList (sign ++ ['0', '.', '0'])
    else
      let (n, e) := shortest significand exponent
      String.ofList (sign ++ standardLayout.render n e)

end Binary64

end StackQuery
