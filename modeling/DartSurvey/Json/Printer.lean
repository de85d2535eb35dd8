import DartSurvey.Value

/-! # Values written as JSON

Everything is written in ASCII on one line: a comma and a space between neighbours, a colon and a space
after a key, `\u` escapes for controls and for every character from U+007F on, two of them for one above
U+FFFF.
-/

namespace DartSurvey.Json

/-- The escape of a 16-bit unit. -/
def unitEscape (n : Nat) : List Char := '\\' :: 'u' :: Text.hexDigits 4 n

/-- A character as it stands between double quotes. -/
def charText (c : Char) : List Char :=
  if c == '"' then ['\\', '"']
  else if c == '\\' then ['\\', '\\']
  else if c == '\n' then ['\\', 'n']
  else if c == '\r' then ['\\', 'r']
  else if c == '\t' then ['\\', 't']
  else if c == '\x08' then ['\\', 'b']
  else if c == '\x0c' then ['\\', 'f']
  else if 0x20 ≤ c.toNat && c.toNat < 0x7f then [c]
  else if c.toNat < 0x10000 then unitEscape c.toNat
  else
    let n := c.toNat - 0x10000
    unitEscape (0xd800 + n / 0x400) ++ unitEscape (0xdc00 + n % 0x400)

/-- A text in double quotes. -/
def stringText (s : String) : List Char := '"' :: s.toList.flatMap charText ++ ['"']

/-- The text of a floating point number; what is no decimal is named. -/
def realText (x : Binary64) : String :=
  if x.isNaN then "NaN"
  else if x.isInfinite then (if x.negative then "-Infinity" else "Infinity")
  else x.written

/-- Texts with a comma and a space between neighbours. -/
def separated (parts : List (List Char)) : List Char := (parts.intersperse [',', ' ']).flatten

mutual

/-- The characters of a written value. -/
def chars : Value → List Char
  | .null => "null".toList
  | .bool true => "true".toList
  | .bool false => "false".toList
  | .int n => (toString n).toList
  | .real x => (realText x).toList
  | .text s => stringText s
  | .list items => '[' :: separated (itemChars items) ++ [']']
  | .object entries => '{' :: separated (entryChars entries) ++ ['}']

/-- The written items of a list. -/
def itemChars : List Value → List (List Char)
  | [] => []
  | v :: vs => chars v :: itemChars vs

/-- The written entries of an object. -/
def entryChars : List (String × Value) → List (List Char)
  | [] => []
  | (k, v) :: rest => (stringText k ++ ':' :: ' ' :: chars v) :: entryChars rest

end

/-- A value written as JSON. -/
def render (v : Value) : String := String.ofList (chars v)

end DartSurvey.Json
