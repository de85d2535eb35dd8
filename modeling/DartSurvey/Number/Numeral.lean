import DartSurvey.Number.Binary64
import DartSurvey.Text.Blank
import DartSurvey.Text.Digit

/-! # Numerals

The texts that stand for a number when a number is asked for: whole numbers in a base, with a sign and the
mark of the base if wanted, and decimals with a point and an exponent. Blanks around a numeral do not count.
A whole number has at most `maxDigits` digits, unless its base is a power of two.
-/

namespace DartSurvey.Numeral

/-- The value of a digit; letters count on from ten. -/
def digit? (c : Char) : Option Nat :=
  if Text.isDecimalDigit c then Text.digitValue? c
  else if 'a' ≤ c ∧ c ≤ 'z' then some (c.toNat - 87)
  else if 'A' ≤ c ∧ c ≤ 'Z' then some (c.toNat - 55)
  else none

/-- Whether a character is a digit of a base. -/
def isDigitOf (base : Nat) (c : Char) : Bool := (digit? c).any (· < base)

/-- The number that digits of a base stand for. -/
def valueOf (base : Nat) (digits : List Char) : Nat :=
  digits.foldl (fun n c => n * base + (digit? c).getD 0) 0

/-- Whether a character does not count at the ends of a numeral: a blank that is no information separator. -/
def isMargin (c : Char) : Bool := Text.isBlank c && !('\x1c' ≤ c && c ≤ '\x1f')

/-- A sign in front of a text, and what follows it. -/
def sign : List Char → Bool × List Char
  | '-' :: cs => (true, cs)
  | '+' :: cs => (false, cs)
  | cs => (false, cs)

/-- The letter that marks a base. -/
def baseMark? : Nat → Option Char
  | 2 => some 'b'
  | 8 => some 'o'
  | 16 => some 'x'
  | _ => none

/-- A text without the mark of a base at its start. -/
def dropBaseMark (base : Nat) : List Char → List Char
  | '0' :: c :: cs => if baseMark? base == some c.toLower then cs else '0' :: c :: cs
  | cs => cs

/-- The greatest number of digits that are read or written. -/
def maxDigits : Nat := 4300

/-- Why a text stands for no whole number. -/
inductive Flaw where
  | malformed
  /-- It has this number of digits, which is too many. -/
  | tooLong (digits : Nat)
deriving DecidableEq

/-- The whole number a text stands for in a base. That it has too many digits is seen before what follows
them. -/
def integer (base : Nat) (cs : List Char) : Except Flaw Int :=
  let (negative, cs) := sign (cs.dropWhile isMargin)
  let cs := dropBaseMark base cs
  let digits := cs.takeWhile (isDigitOf base)
  if (baseMark? base).isNone && maxDigits < digits.length then .error (.tooLong digits.length)
  else if digits.isEmpty || !(cs.drop digits.length).all isMargin then .error .malformed
  else
    let n : Int := valueOf base digits
    .ok (if negative then -n else n)

/-- The digits of a whole number, unless there are too many to be written. -/
def written? (n : Int) : Option String :=
  if n.natAbs < Nat.pow 10 maxDigits then some (toString n) else none

/-- The exponent at the end of a decimal. -/
def exponent? : List Char → Option Int
  | [] => some 0
  | e :: cs =>
    if e == 'e' || e == 'E' then
      let (negative, cs) := sign cs
      if cs.isEmpty || !cs.all Text.isDecimalDigit then none
      else
        let n : Int := valueOf 10 cs
        some (if negative then -n else n)
    else none

/-- A decimal without a sign. -/
def decimal? (negative : Bool) (cs : List Char) : Option Binary64 :=
  let whole := cs.takeWhile Text.isDecimalDigit
  let rest := cs.dropWhile Text.isDecimalDigit
  let (places, rest) := match rest with
    | '.' :: rest => (rest.takeWhile Text.isDecimalDigit, rest.dropWhile Text.isDecimalDigit)
    | rest => ([], rest)
  if (whole ++ places).isEmpty then none
  else (exponent? rest).map fun e => .ofDecimal negative (valueOf 10 (whole ++ places)) (e - places.length)

/-- A text without what does not count at its ends. -/
def dropMargins (cs : List Char) : List Char :=
  ((cs.dropWhile isMargin).reverse.dropWhile isMargin).reverse

/-- The floating point number a text stands for. -/
def real? (cs : List Char) : Option Binary64 :=
  let (negative, cs) := sign (dropMargins cs)
  match String.ofList (cs.map Char.toLower) with
  | "inf" | "infinity" => some (.infinity negative)
  | "nan" => some .nan
  | _ => decimal? negative cs

end DartSurvey.Numeral
