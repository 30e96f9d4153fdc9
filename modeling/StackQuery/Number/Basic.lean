import StackQuery.Number.Decimal

/-!
# Numbers

A number is a whole number of any size or a binary datum; the two kinds print and divide differently.
-/
namespace StackQuery

/-- A whole number or a binary datum. -/
inductive Number where
  | int (value : Int)
  | float (value : Binary64)
  deriving DecidableEq, Repr

inductive ArithmeticError where
  | tooLarge
  | quotientTooLarge
  | divisionByZero
  | floatDivisionByZero
  deriving DecidableEq, Repr

def ArithmeticError.message : ArithmeticError → String
  | .tooLarge => "int too large to convert to float"
  | .quotientTooLarge => "integer division result too large for a float"
  | .divisionByZero => "division by zero"
  | .floatDivisionByZero => "float division by zero"

namespace Number

/-- The datum nearest to a whole number; refused beyond the finite data. -/
def ofIntExact (z : Int) : Except ArithmeticError Binary64 :=
  let x := Binary64.ofInt z
  if x.isInfinite then .error .tooLarge else .ok x

def toFloat : Number → Except ArithmeticError Binary64
  | .int z => ofIntExact z
  | .float x => .ok x

def text : Number → String
  | .int z => toString z
  | .float x => x.toShortest

def compare? : Number → Number → Option Ordering
  | .int a, .int b => some (compare a b)
  | .float x, .float y => x.compare? y
  | .int a, .float y => match y with
    | .nan => none
    | .infinite negative => some (if negative then .gt else .lt)
    | .finite s m e =>
      let (num, den) := Binary64.fraction s m e
      some (compare (a * Int.ofNat den) num)
  | .float x, .int b => match x with
    | .nan => none
    | .infinite negative => some (if negative then .lt else .gt)
    | .finite s m e =>
      let (num, den) := Binary64.fraction s m e
      some (compare num (b * Int.ofNat den))

def lt (x y : Number) : Bool := x.compare? y == some .lt

def le (x y : Number) : Bool := x.compare? y == some .lt || x.compare? y == some .eq

def add : Number → Number → Except ArithmeticError Number
  | .int a, .int b => .ok (.int (a + b))
  | x, y => do return .float (Binary64.add (← x.toFloat) (← y.toFloat))

/-- The quotient as a datum. Two whole numbers divide exactly and round once; a
quotient of zero by a negative number is the negative zero. -/
def div : Number → Number → Except ArithmeticError Binary64
  | .int a, .int b =>
    if b == 0 then .error .divisionByZero
    else
      let x := Binary64.ofRatio ((a < 0) != (b < 0)) a.natAbs b.natAbs
      if x.isInfinite then .error .quotientTooLarge
      else .ok x
  | x, y => do
    let a ← x.toFloat
    let b ← y.toFloat
    if b.isZero then .error .floatDivisionByZero else .ok (a.div b)

theorem lt_nan (x : Number) : lt x (.float .nan) = false := by
  cases x with
  | int z => rfl
  | float x => cases x <;> rfl

end Number

/-- `count` as a percentage of `total`; zero for an empty total. The count is rounded to a datum before
it is scaled. -/
def percent (count total : Int) : Except ArithmeticError Binary64 :=
  if total ≤ 0 then .ok (Binary64.zero false)
  else do
    let part ← Number.ofIntExact count
    let whole ← Number.ofIntExact total
    return (part.mul (Binary64.ofInt 100)).div whole

theorem percent_of_total_nonpos {count total : Int} (h : total ≤ 0) :
    percent count total = .ok (Binary64.zero false) := by
  simp [percent, h]

end StackQuery
