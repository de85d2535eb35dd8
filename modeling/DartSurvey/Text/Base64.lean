/-! # Bytes written in base 64

Four characters of six bits each stand for three bytes. Characters outside of the alphabet are passed over,
and a last group of two or three characters is filled up with equals signs.
-/

namespace DartSurvey.Text.Base64

/-- The six bits of a character. -/
def sextet? (c : Char) : Option Nat :=
  if 'A' ≤ c ∧ c ≤ 'Z' then some (c.toNat - 65)
  else if 'a' ≤ c ∧ c ≤ 'z' then some (c.toNat - 71)
  else if c.isDigit then some (c.toNat + 4)
  else if c == '+' then some 62
  else if c == '/' then some 63
  else none

/-- The bytes of a text, where `group` holds the sextets of the group that has begun and `pads` counts the
equals signs since the last of them. -/
def decodeFrom (group : List Nat) (pads : Nat) : List Char → Option (List UInt8)
  | [] => if group.isEmpty then some [] else none
  | c :: cs =>
    if c == '=' then
      if 2 ≤ group.length then
        if 4 ≤ group.length + pads + 1 then some [] else decodeFrom group (pads + 1) cs
      else decodeFrom group pads cs
    else
      match sextet? c, group with
      | none, _ => decodeFrom group pads cs
      | some s, [] => decodeFrom [s] 0 cs
      | some s, [a] => (decodeFrom [a, s] 0 cs).map ((a * 4 + s / 16).toUInt8 :: ·)
      | some s, [a, b] => (decodeFrom [a, b, s] 0 cs).map ((b % 16 * 16 + s / 4).toUInt8 :: ·)
      | some s, _ :: _ :: d :: _ => (decodeFrom [] 0 cs).map ((d % 4 * 64 + s).toUInt8 :: ·)

/-- The bytes of a text, if its last group is complete. -/
def decode? (cs : List Char) : Option (List UInt8) := decodeFrom [] 0 cs

end DartSurvey.Text.Base64
