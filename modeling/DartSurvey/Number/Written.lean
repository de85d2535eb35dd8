import DartSurvey.Number.Binary64

/-! # Written numbers

A floating point number is written with the fewest digits that read back: positionally, with at least
one digit after the point, when it is at least `10 ^ -4` and below `10 ^ 16`, and otherwise with a signed
exponent of at least two digits.
-/

namespace DartSurvey.Binary64

/-- The digits of a number without the zeros at its end, and how many zeros those are. -/
def dropZeros (digits : List Char) : List Char × Nat :=
  let kept := (digits.reverse.dropWhile (· == '0')).reverse
  (kept, digits.length - kept.length)

/-- A positive number from its digits, the first one worth `10 ^ top`. -/
def layOut (digits : List Char) (top : Int) : List Char :=
  if top < -4 ∨ 16 ≤ top then
    let mantissa := match digits with
      | [] => []
      | [d] => [d]
      | d :: ds => d :: '.' :: ds
    let power := (Nat.toDigits 10 top.natAbs)
    let padded := if power.length < 2 then '0' :: power else power
    mantissa ++ 'e' :: (if top < 0 then '-' else '+') :: padded
  else if top < 0 then
    '0' :: '.' :: List.replicate (top.natAbs - 1) '0' ++ digits
  else
    let whole := top.toNat + 1
    let padded := digits ++ List.replicate (whole - digits.length) '0'
    let after := padded.drop whole
    padded.take whole ++ '.' :: (if after.isEmpty then ['0'] else after)

/-- The text of a number. -/
def written (x : Binary64) : String :=
  if x.isNaN then "nan"
  else
    let body :=
      if x.isInfinite then "inf".toList
      else if x.isZero then "0.0".toList
      else
        let d := x.shortest
        let all := Nat.toDigits 10 d.digits
        layOut (dropZeros all).1 (d.exponent + (all.length : Int) - 1)
    String.ofList (if x.negative then '-' :: body else body)

end DartSurvey.Binary64
