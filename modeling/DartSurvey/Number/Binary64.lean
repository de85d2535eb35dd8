/-! # Binary floating point numbers of 64 bits

A number is its bit pattern. A finite one is `± mantissa · 2 ^ scale` exactly (`Binary64.mantissa`,
`Binary64.scale`), and all rules are in whole numbers: `Binary64.ofDecimal` rounds a decimal to the
nearest number, and `Binary64.shortest` finds the fewest decimal digits that read back.
-/

namespace DartSurvey

/-- A floating point number, by its bits. -/
structure Binary64 where
  bits : UInt64
deriving DecidableEq, Inhabited

namespace Binary64

/-- Whether the sign bit is set. -/
def negative (x : Binary64) : Bool := Nat.pow 2 63 ≤ x.bits.toNat

/-- The eleven bits of the exponent. -/
def exponentField (x : Binary64) : Nat := x.bits.toNat / Nat.pow 2 52 % 2048

/-- The fifty-two bits of the fraction. -/
def fraction (x : Binary64) : Nat := x.bits.toNat % Nat.pow 2 52

/-- Whether the bits stand for no number. -/
def isNaN (x : Binary64) : Bool := x.exponentField == 2047 && x.fraction != 0

/-- Whether the bits stand for one of the infinities. -/
def isInfinite (x : Binary64) : Bool := x.exponentField == 2047 && x.fraction == 0

/-- The whole number that a power of two scales. -/
def mantissa (x : Binary64) : Nat :=
  if x.exponentField == 0 then x.fraction else Nat.pow 2 52 + x.fraction

/-- The exponent of the power of two that scales the mantissa. -/
def scale (x : Binary64) : Int :=
  if x.exponentField == 0 then -1074 else (x.exponentField : Int) - 1075

/-- Whether the number is a zero of either sign. -/
def isZero (x : Binary64) : Bool := x.exponentField == 0 && x.fraction == 0

/-- The number with the given sign, exponent bits and fraction bits. -/
def pack (negative : Bool) (exponent fraction : Nat) : Binary64 :=
  ⟨((if negative then Nat.pow 2 63 else 0) + exponent * Nat.pow 2 52 + fraction).toUInt64⟩

/-- The infinity of a sign. -/
def infinity (negative : Bool) : Binary64 := pack negative 2047 0

/-- The bit pattern for "not a number". -/
def nan : Binary64 := pack false 2047 (Nat.pow 2 51)

/-- `n / d` rounded to the nearest whole number, a half to the even neighbour. -/
def roundDiv (n d : Nat) : Nat :=
  let q := n / d
  let r := n % d
  if 2 * r < d then q else if 2 * r > d then q + 1 else if q % 2 == 0 then q else q + 1

/-- The fraction `num / den` times `2 ^ e`, as a fraction. -/
def scaleFraction (num den : Nat) (e : Int) : Nat × Nat :=
  if e ≥ 0 then (num * Nat.pow 2 e.toNat, den) else (num, den * Nat.pow 2 (-e).toNat)

/-- The nearest number to the positive fraction `num / den`, a half to the even mantissa. -/
def ofFraction (negative : Bool) (num den : Nat) : Binary64 :=
  -- The quotient has its leading bit at `guess` or one below it.
  let guess : Int := (num.log2 : Int) - (den.log2 : Int)
  let (n, d) := scaleFraction num den (-guess)
  let top : Int := if d ≤ n then guess else guess - 1
  let e : Int := max (top - 52) (-1074)
  let (n, d) := scaleFraction num den (-e)
  let m := roundDiv n d
  let (m, e) := if m == Nat.pow 2 53 then (Nat.pow 2 52, e + 1) else (m, e)
  if m < Nat.pow 2 52 then pack negative 0 m
  else if e > 971 then infinity negative
  else pack negative (e + 1075).toNat (m - Nat.pow 2 52)

/-- The number of decimal digits. -/
def decimalLength (n : Nat) : Nat := (Nat.toDigits 10 n).length

/-- The nearest number to `digits · 10 ^ exponent`. Beyond the range of the format the answer is known
without the power. -/
def ofDecimal (negative : Bool) (digits : Nat) (exponent : Int) : Binary64 :=
  if digits == 0 then pack negative 0 0
  else if exponent + decimalLength digits > 320 then infinity negative
  else if exponent + decimalLength digits < -350 then pack negative 0 0
  else if exponent ≥ 0 then ofFraction negative (digits * Nat.pow 10 exponent.toNat) 1
  else ofFraction negative digits (Nat.pow 10 (-exponent).toNat)

/-- Decimal digits `digits` with the last one worth `10 ^ exponent`. -/
structure Decimal where
  digits : Nat
  exponent : Int

/-- A fraction that is not negative. -/
structure Ratio where
  num : Nat
  den : Nat

/-- `m · 2 ^ e` as a ratio. -/
def Ratio.ofBinary (m : Nat) (e : Int) : Ratio :=
  if e ≥ 0 then ⟨m * Nat.pow 2 e.toNat, 1⟩ else ⟨m, Nat.pow 2 (-e).toNat⟩

/-- `d · 10 ^ e` as a ratio. -/
def Ratio.ofDecimal (d : Decimal) : Ratio :=
  if d.exponent ≥ 0 then ⟨d.digits * Nat.pow 10 d.exponent.toNat, 1⟩
  else ⟨d.digits, Nat.pow 10 (-d.exponent).toNat⟩

/-- Whether one ratio is below another. -/
def Ratio.lt (a b : Ratio) : Bool := a.num * b.den < b.num * a.den

/-- Whether one ratio is not above another. -/
def Ratio.le (a b : Ratio) : Bool := a.num * b.den ≤ b.num * a.den

/-- The distance between two ratios. -/
def Ratio.gap (a b : Ratio) : Ratio :=
  let x := a.num * b.den
  let y := b.num * a.den
  ⟨if x ≤ y then y - x else x - y, a.den * b.den⟩

/-- Whether a decimal rounds to the positive number `x`: it lies between the midpoints to the two
neighbours, ends included when the mantissa is even. -/
def readsBackAs (x : Binary64) (d : Decimal) : Bool :=
  let v := Ratio.ofDecimal d
  -- The neighbour below is half as far at the start of a power of two.
  let lower :=
    if x.fraction == 0 && x.exponentField > 1 then Ratio.ofBinary (4 * x.mantissa - 1) (x.scale - 2)
    else Ratio.ofBinary (2 * x.mantissa - 1) (x.scale - 1)
  let upper := Ratio.ofBinary (2 * x.mantissa + 1) (x.scale - 1)
  if x.mantissa % 2 == 0 then lower.le v && v.le upper else lower.lt v && v.lt upper

/-- The greatest `k` with `10 ^ k ≤ r`, for a positive ratio. -/
def Ratio.magnitude (r : Ratio) : Int :=
  if r.den ≤ r.num then (decimalLength (r.num / r.den) : Int) - 1
  else
    let k : Int := (decimalLength r.num : Int) - (decimalLength r.den : Int)
    let fits (k : Int) : Bool := Ratio.le (Ratio.ofDecimal ⟨1, k⟩) r
    if fits (k + 1) then k + 1 else if fits k then k else k - 1

/-- The decimal with `n` digits that reads back as `x` and is nearest to it, if there is one: of the two
neighbours of `x` on that grid, the nearer, and at equal distance the even one. -/
def withDigits (x : Binary64) (n : Nat) : Option Decimal :=
  let v := Ratio.ofBinary x.mantissa x.scale
  let unit : Int := v.magnitude - (n : Int) + 1
  let floor : Nat :=
    if unit ≥ 0 then v.num / (v.den * Nat.pow 10 unit.toNat) else v.num * Nat.pow 10 (-unit).toNat / v.den
  let below : Decimal := ⟨floor, unit⟩
  let above : Decimal := ⟨floor + 1, unit⟩
  match readsBackAs x below, readsBackAs x above with
  | true, true =>
    let down := v.gap (Ratio.ofDecimal below)
    let up := v.gap (Ratio.ofDecimal above)
    if down.lt up then some below
    else if up.lt down then some above
    else if floor % 2 == 0 then some below else some above
  | true, false => some below
  | false, true => some above
  | false, false => none

/-- The fewest digits, seventeen at most, of a decimal that reads back as the positive number `x`. -/
def shortest (x : Binary64) : Decimal :=
  ((List.range 17).findSome? fun n => withDigits x (n + 1)).getD ⟨x.mantissa, x.scale⟩

/-- Equality of numbers: a zero equals the zero of the other sign, and what is no number equals
nothing. -/
def equal (x y : Binary64) : Bool :=
  !x.isNaN && !y.isNaN && (x.bits == y.bits || (x.isZero && y.isZero))

/-- The whole number that `x` equals, if there is one. -/
def toInt? (x : Binary64) : Option Int :=
  if x.exponentField == 2047 then none
  else
    let sign (n : Nat) : Int := if x.negative then -(n : Int) else n
    if x.scale ≥ 0 then some (sign (x.mantissa * Nat.pow 2 x.scale.toNat))
    else
      let unit := Nat.pow 2 (-x.scale).toNat
      if x.mantissa % unit == 0 then some (sign (x.mantissa / unit)) else none

end Binary64

end DartSurvey
