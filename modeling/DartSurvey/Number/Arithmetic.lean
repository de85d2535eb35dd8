import DartSurvey.Number.Binary64

/-! # Sums and products of floating point numbers

Each operation is the exact result rounded to the nearest number, a half to the even mantissa.
-/

namespace DartSurvey.Binary64

/-- The number of the other sign. -/
def negate (x : Binary64) : Binary64 := pack (!x.negative) x.exponentField x.fraction

/-- The amount of a finite number, as the numerator over `2 ^ 1074`. -/
def amount (x : Binary64) : Int :=
  let n : Int := x.mantissa * Nat.pow 2 (x.scale + 1074).toNat
  if x.negative then -n else n

/-- The nearest number to an amount over `2 ^ 1074`; zero takes the given sign. -/
def ofAmount (zeroSign : Bool) (n : Int) : Binary64 :=
  if n == 0 then pack zeroSign 0 0 else ofFraction (n < 0) n.natAbs (Nat.pow 2 1074)

/-- The sum of two numbers. -/
def add (x y : Binary64) : Binary64 :=
  if x.isNaN || y.isNaN then nan
  else if x.isInfinite && y.isInfinite && x.negative != y.negative then nan
  else if x.isInfinite then x
  else if y.isInfinite then y
  else ofAmount (x.negative && y.negative) (x.amount + y.amount)

/-- A number times a positive finite one. -/
def times (x factor : Binary64) : Binary64 :=
  if x.isNaN || x.isInfinite then x
  else
    let n := x.amount * factor.amount
    if n == 0 then pack x.negative 0 0 else ofFraction x.negative n.natAbs (Nat.pow 2 2148)

end DartSurvey.Binary64
