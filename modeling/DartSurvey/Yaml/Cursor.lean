import DartSurvey.Json.Parser

/-! # Positions in a YAML text

A cursor is what is left of a text, with the number of characters before it and the line and column it has
reached. Beyond the end every character is U+0000, which no readable text holds.
-/

namespace DartSurvey.Yaml

/-- A position in a text. -/
structure Cursor where
  rest : List Char
  index : Nat := 0
  line : Nat := 0
  column : Nat := 0

/-- Whether a character ends a line. -/
def isBreak (c : Char) : Bool := c == '\n' || c == '\x85' || c == '\u2028' || c == '\u2029'

/-- Whether a character is the end of the text or of a line. -/
def isLineEnd (c : Char) : Bool := c == '\x00' || isBreak c

/-- Whether a character is a space, or the end of the text or of a line. -/
def isSpaceOrEnd (c : Char) : Bool := c == ' ' || isLineEnd c

/-- Whether a character is a space or a tab, or the end of the text or of a line. -/
def isGap (c : Char) : Bool := c == '\t' || isSpaceOrEnd c

/-- The number that hexadecimal digits stand for. -/
def hexNumber? (cs : List Char) : Option Nat :=
  cs.foldlM (fun n c => (Json.hexValue? c).map (n * 16 + ·)) 0

namespace Cursor

/-- The character `n` places on. -/
def peek (c : Cursor) (n : Nat) : Char := (c.rest.drop n).headD '\x00'

/-- The next character. -/
def here (c : Cursor) : Char := c.rest.headD '\x00'

/-- The position one character on. A byte order mark takes no column. -/
def step (c : Cursor) : Cursor :=
  match c.rest with
  | [] => c
  | ch :: rest =>
    if isBreak ch then ⟨rest, c.index + 1, c.line + 1, 0⟩
    else ⟨rest, c.index + 1, c.line, if ch == '\ufeff' then c.column else c.column + 1⟩

/-- The position `n` characters on. -/
def forward : Nat → Cursor → Cursor
  | 0, c => c
  | n + 1, c => forward n c.step

/-- The characters from here on that satisfy a test. -/
def run (p : Char → Bool) (c : Cursor) : List Char := c.rest.takeWhile p

/-- The position after the characters that satisfy a test. -/
def skip (p : Char → Bool) (c : Cursor) : Cursor := c.forward (c.run p).length

/-- The line break that comes next, as it is read, and the position after it. -/
def lineBreak (c : Cursor) : List Char × Cursor :=
  if c.here == '\n' || c.here == '\x85' then (['\n'], c.step)
  else if c.here == '\u2028' || c.here == '\u2029' then ([c.here], c.step)
  else ([], c)

/-- The position after a comment, if one comes next. -/
def skipComment (c : Cursor) : Cursor := if c.here == '#' then c.skip (!isLineEnd ·) else c

/-- Whether a document marker made of three such characters comes next. -/
def isMarker (mark : Char) (c : Cursor) : Bool :=
  c.peek 0 == mark && c.peek 1 == mark && c.peek 2 == mark && isGap (c.peek 3)

/-- Whether either document marker comes next. -/
def atMarker (c : Cursor) : Bool := c.isMarker '-' || c.isMarker '.'

end Cursor

end DartSurvey.Yaml
