import DartSurvey.Text.LowerCase
import DartSurvey.Text.Quoted

/-! # Texts with halves of surrogate pairs

A text in which characters are written by number may name half of a surrogate pair, which stands for no
character. Such a text is a list of `Glyph`s. Two halves that make a pair stay two glyphs in every
comparison, and are read as one character only where the text is shown (`Wide.joined`).
-/

namespace DartSurvey.Text

/-- A character, or half of a surrogate pair. -/
inductive Glyph where
  | char (c : Char)
  | half (code : Nat)
deriving DecidableEq, Inhabited

/-- The glyph of a code point. -/
def Glyph.ofCode (n : Nat) : Glyph := if 0xd800 ≤ n ∧ n < 0xe000 then .half n else .char (Char.ofNat n)

/-- A text that may hold halves of surrogate pairs. -/
abbrev Wide := List Glyph

namespace Wide

/-- Characters as glyphs. -/
def ofChars (cs : List Char) : Wide := cs.map .char

/-- A string as glyphs. -/
def ofString (s : String) : Wide := ofChars s.toList

/-- The characters, if there is no half of a pair among the glyphs. -/
def chars? : Wide → Option (List Char)
  | [] => some []
  | .char c :: w => (chars? w).map (c :: ·)
  | .half _ :: _ => none

/-- The string of a text without halves of pairs. -/
def text? (w : Wide) : Option String := w.chars?.map String.ofList

/-- The characters, with a question mark for each half of a pair. -/
def marked (w : Wide) : List Char :=
  w.map fun
    | .char c => c
    | .half _ => '?'

/-- The character of a pair, if two halves make one. -/
def pair? (high low : Nat) : Option Char :=
  if high < 0xdc00 ∧ 0xdc00 ≤ low then some (Char.ofNat (0x10000 + (high - 0xd800) * 0x400 + (low - 0xdc00)))
  else none

/-- The characters of a text as it is shown: pairs are joined, and a half alone is a replacement character. -/
def joinedChars : Wide → List Char
  | [] => []
  | .char c :: w => c :: joinedChars w
  | .half high :: .half low :: w =>
    match pair? high low with
    | some c => c :: joinedChars w
    | none => '\ufffd' :: joinedChars (.half low :: w)
  | .half _ :: w => '\ufffd' :: joinedChars w

/-- A text as it is shown. -/
def joined (w : Wide) : String := String.ofList w.joinedChars

/-- A text in quotes; a half of a pair is escaped by its code. -/
def quoted (w : Wide) : String :=
  let mark := quoteMark w.marked
  String.ofList (mark :: w.flatMap (fun
    | .char c => quotedChar mark c
    | .half n => '\\' :: 'u' :: hexDigits 4 n) ++ [mark])

/-- The characters at the start of a text, up to the first half of a pair. -/
def leadingChars : Wide → List Char
  | .char c :: w => c :: leadingChars w
  | _ => []

/-- A text in lower case, after the characters in `before`, of which the nearest comes first. -/
def lowerAfter (before : List Char) : Wide → Wide
  | [] => []
  | .char c :: w => ofChars (lowerChar before c (leadingChars w)) ++ lowerAfter (c :: before) w
  | .half n :: w => .half n :: lowerAfter [] w

/-- A text in lower case. -/
def lower (w : Wide) : Wide := lowerAfter [] w

theorem chars?_ofChars (cs : List Char) : (ofChars cs).chars? = some cs := by
  induction cs with
  | nil => rfl
  | cons c cs ih => simpa [ofChars, chars?] using ih

/-- A string is shown as it is. -/
theorem joined_ofString (s : String) : (ofString s).joined = s := by
  have key : ∀ cs : List Char, (ofChars cs).joinedChars = cs := by
    intro cs
    induction cs with
    | nil => rfl
    | cons c cs ih => simpa [ofChars, joinedChars] using ih
  simp [joined, ofString, key]

end Wide

end DartSurvey.Text
