import DartSurvey.Text.Blank

/-! # Written types

A type is reported with one space where the source has any blanks, no blanks before `<`, `>` and `?` or
after `<`, and a comma directly after the text before it with one space behind (`normaliseType`). The
blanks are dealt with in four passes.
-/

namespace DartSurvey.Dart

open Text

/-- Whether blanks before this character are dropped. -/
def closesUp (c : Char) : Bool := c == '<' || c == '>' || c == '?'

/-- The first character after the blanks at the start. -/
def firstSolid (cs : List Char) : Option Char := (trimStart cs).head?

/-- Drops the blanks before `<`, `>` and `?`. -/
def closeBefore : List Char → List Char
  | [] => []
  | c :: cs => if isBlank c && (firstSolid cs).any closesUp then closeBefore cs else c :: closeBefore cs

/-- Drops the blanks after `<`; `opened` says whether the text comes right after one. -/
def closeAfter (opened : Bool) : List Char → List Char
  | [] => []
  | c :: cs => if opened && isBlank c then closeAfter true cs else c :: closeAfter (c == '<') cs

/-- Writes every comma, with the blanks around it, as a comma and a space; `after` says whether the text
comes right after a comma. -/
def spaceCommas (after : Bool) : List Char → List Char
  | [] => []
  | c :: cs =>
    if isBlank c && (after || firstSolid cs == some ',') then spaceCommas after cs
    else if c == ',' then ',' :: ' ' :: spaceCommas true cs
    else c :: spaceCommas false cs

/-- The characters of a type as they are reported. -/
def normaliseTypeChars (cs : List Char) : List Char :=
  spaceCommas false (closeAfter false (closeBefore (squeeze cs)))

/-- A type as it is reported. -/
def normaliseType (s : String) : String := String.ofList (normaliseTypeChars s.toList)

end DartSurvey.Dart
