import DartSurvey.Yaml.Cursor
import DartSurvey.Yaml.Token

/-! # Scalars

Each reader starts at a scalar and returns its text and the position after it. In plain and quoted
scalars a line break with the blanks around it is read as a space, and one more break for every empty line;
block scalars keep their breaks, or fold them, as their header says. The numbers `fuel` are bounded by
the length of the text.
-/

namespace DartSurvey.Yaml

open Text (Glyph Wide)

/-! ## Plain scalars -/

/-- The breaks of the empty lines from here on, and the position of the next text; nothing at a document
marker. -/
def plainBreaks : (fuel : Nat) → Cursor → Option (List (List Char)) × Cursor
  | 0, c => (some [], c)
  | fuel + 1, c =>
    if c.here == ' ' then plainBreaks fuel c.step
    else if isBreak c.here then
      let (b, c) := c.lineBreak
      if c.atMarker then (none, c)
      else
        match plainBreaks fuel c with
        | (some bs, c) => (some (b :: bs), c)
        | (none, c) => (none, c)
    else (some [], c)

/-- How line breaks between two pieces of text are read. -/
def foldBreaks (first : List Char) (more : List (List Char)) : List Char :=
  (if first != ['\n'] then first else if more.isEmpty then [' '] else []) ++ more.flatten

/-- The gap after a piece of a plain scalar: its text, the position after it, and whether a line ended in
it. An empty text ends the scalar. -/
def plainGap (c : Cursor) : List Char × Cursor × Bool :=
  let spaces := c.run (· == ' ')
  let c := c.forward spaces.length
  if isBreak c.here then
    let (first, c) := c.lineBreak
    if c.atMarker then ([], c, true)
    else
      match plainBreaks (c.rest.length + 1) c with
      | (some more, c) => (foldBreaks first more, c, true)
      | (none, c) => ([], c, true)
  else (spaces, c, false)

/-- Whether a plain scalar ends before these characters. -/
def endsPlain (inFlow : Bool) (c next : Char) : Bool :=
  isGap c
    || (c == ':' && (isGap next || (inFlow && [',', '[', ']', '{', '}'].contains next)))
    || (inFlow && [',', '?', '[', ']', '{', '}'].contains c)

/-- The number of characters up to where a plain scalar ends. -/
def plainRun (inFlow : Bool) : List Char → Nat
  | [] => 0
  | c :: cs => if endsPlain inFlow c (cs.headD '\x00') then 0 else 1 + plainRun inFlow cs

/-- What is read of a scalar: its text, the position after it, and whether a simple key may follow. -/
structure Scanned where
  text : Wide
  cursor : Cursor
  simpleKey : Bool := false

/-- A plain scalar; `gap` stands between the text so far and the next piece. -/
def plainPieces (inFlow : Bool) (indent : Nat) : (fuel : Nat) → (gap : List Char) → Scanned → Scanned
  | 0, _, s => s
  | fuel + 1, gap, s =>
    if s.cursor.here == '#' then s
    else
      let length := plainRun inFlow s.cursor.rest
      if length == 0 then s
      else
        let text := s.text ++ Wide.ofChars (gap ++ s.cursor.rest.take length)
        let (gap, c, broken) := plainGap (s.cursor.forward length)
        let s : Scanned := ⟨text, c, broken⟩
        if gap.isEmpty || c.here == '#' || (!inFlow && c.column < indent) then s
        else plainPieces inFlow indent fuel gap s

/-- A plain scalar. -/
def scanPlain (inFlow : Bool) (indent : Nat) (c : Cursor) : Scanned :=
  plainPieces inFlow indent (c.rest.length + 1) [] ⟨[], c, false⟩

/-! ## Quoted scalars -/

/-- The breaks of the empty lines inside a quoted scalar; a document marker is not allowed there. -/
def quotedBreaks : (fuel : Nat) → Cursor → Except Fault (List (List Char) × Cursor)
  | 0, c => .ok ([], c)
  | fuel + 1, c =>
    if c.atMarker then .error .malformed
    else
      let c := c.skip fun ch => ch == ' ' || ch == '\t'
      if isBreak c.here then
        let (b, c) := c.lineBreak
        (quotedBreaks fuel c).map fun (bs, c) => (b :: bs, c)
      else .ok ([], c)

/-- The blanks inside a quoted scalar, as they are read. -/
def quotedGap (c : Cursor) : Except Fault (List Char × Cursor) :=
  let blanks := c.run fun ch => ch == ' ' || ch == '\t'
  let c := c.forward blanks.length
  if c.here == '\x00' then .error .malformed
  else if isBreak c.here then
    let (first, c) := c.lineBreak
    (quotedBreaks (c.rest.length + 1) c).map fun (more, c) => (foldBreaks first more, c)
  else .ok (blanks, c)

/-- The character a letter after a backslash stands for. -/
def escape? : Char → Option Char
  | '0' => some '\x00'
  | 'a' => some '\x07'
  | 'b' => some '\x08'
  | 't' => some '\t'
  | '\t' => some '\t'
  | 'n' => some '\n'
  | 'v' => some '\x0b'
  | 'f' => some '\x0c'
  | 'r' => some '\r'
  | 'e' => some '\x1b'
  | ' ' => some ' '
  | '"' => some '"'
  | '\\' => some '\\'
  | '/' => some '/'
  | 'N' => some '\x85'
  | '_' => some '\xa0'
  | 'L' => some '\u2028'
  | 'P' => some '\u2029'
  | _ => none

/-- The number of hexadecimal digits after a letter that introduces a code. -/
def codeLength? : Char → Option Nat
  | 'x' => some 2
  | 'u' => some 4
  | 'U' => some 8
  | _ => none

/-- What a code stands for; codes beyond 31 bits are refused before it is asked whether they exist. -/
def glyphOfCode (n : Nat) : Except Fault Glyph :=
  if n < 0x110000 then .ok (.ofCode n)
  else if n < 0x80000000 then .error (.noSuchValue .codePoint)
  else .error (.tooLarge .code)

/-- The text of a quoted scalar up to its closing quote, from the position after the opening one. -/
def quotedText (double : Bool) : (fuel : Nat) → Cursor → Except Fault (Wide × Cursor)
  | 0, _ => .error .malformed
  | fuel + 1, c =>
    let resume (text : Wide) (c : Cursor) : Except Fault (Wide × Cursor) :=
      (quotedText double fuel c).map fun (more, c) => (text ++ more, c)
    let continueWith (text : List Char) (c : Cursor) : Except Fault (Wide × Cursor) := resume (.ofChars text) c
    let ch := c.here
    if ch == (if double then '"' else '\'') then
      if !double && c.peek 1 == '\'' then continueWith ['\''] (c.forward 2) else .ok ([], c.step)
    else if isGap ch then
      match quotedGap c with
      | .error f => .error f
      | .ok (gap, c) => continueWith gap c
    else if double && ch == '\\' then
      let c := c.step
      match escape? c.here, codeLength? c.here with
      | some e, _ => continueWith [e] c.step
      | none, some n =>
        let c := c.step
        let digits := c.rest.take n
        match (if digits.length == n then hexNumber? digits else none) with
        | none => .error .malformed
        | some code =>
          match glyphOfCode code with
          | .error f => .error f
          | .ok g => resume [g] (c.forward n)
      | none, none =>
        if isBreak c.here then
          let (_, c) := c.lineBreak
          match quotedBreaks (c.rest.length + 1) c with
          | .error f => .error f
          | .ok (bs, c) => continueWith bs.flatten c
        else .error .malformed
    else continueWith [ch] c.step

/-- A quoted scalar. -/
def scanQuoted (double : Bool) (c : Cursor) : Except Fault Scanned :=
  (quotedText double (c.rest.length + 1) c.step).map fun (text, c) => ⟨text, c, false⟩

/-! ## Block scalars -/

/-- What is done with the breaks at the end of a block scalar. -/
inductive Chomp where
  | strip | clip | keep
deriving DecidableEq

/-- The chomping indicator that comes next. -/
def chomp? (c : Char) : Option Chomp :=
  if c == '+' then some .keep else if c == '-' then some .strip else none

/-- The indentation indicator that comes next; zero is not allowed. -/
def indentation? (c : Char) : Except Fault (Option Nat) :=
  if c.isDigit then (if c == '0' then .error .malformed else .ok (some (c.toNat - 48))) else .ok none

/-- The header of a block scalar: chomping and indentation in either order, and the position after the
line. -/
def blockHeader (c : Cursor) : Except Fault (Chomp × Option Nat × Cursor) := do
  let (chomp, indent, c) ← match chomp? c.here with
    | some chomp => do
      let c := c.step
      match ← indentation? c.here with
      | some n => pure (chomp, some n, c.step)
      | none => pure (chomp, none, c)
    | none => do
      match ← indentation? c.here with
      | some n =>
        let c := c.step
        match chomp? c.here with
        | some chomp => pure (chomp, some n, c.step)
        | none => pure (Chomp.clip, some n, c)
      | none => pure (Chomp.clip, none, c)
  if !isSpaceOrEnd c.here then throw .malformed
  let c := (c.skip (· == ' ')).skipComment
  if !isLineEnd c.here then throw .malformed
  return (chomp, indent, c.lineBreak.2)

/-- The breaks before the first line of a block scalar, and the widest indentation seen on the way. -/
def blockIndentation : (fuel : Nat) → (widest : Nat) → Cursor → List (List Char) × Nat × Cursor
  | 0, widest, c => ([], widest, c)
  | fuel + 1, widest, c =>
    if c.here == ' ' then blockIndentation fuel (max widest c.step.column) c.step
    else if isBreak c.here then
      let (b, c) := c.lineBreak
      let (bs, widest, c) := blockIndentation fuel widest c
      (b :: bs, widest, c)
    else ([], widest, c)

/-- Passes at most the spaces that indent a line. -/
def skipIndent (indent : Nat) : (fuel : Nat) → Cursor → Cursor
  | 0, c => c
  | fuel + 1, c => if c.column < indent && c.here == ' ' then skipIndent indent fuel c.step else c

/-- The breaks of the empty lines before the next line of a block scalar. -/
def blockBreaks (indent : Nat) : (fuel : Nat) → Cursor → List (List Char) × Cursor
  | 0, c => ([], c)
  | fuel + 1, c =>
    let c := skipIndent indent (indent + 1) c
    if isBreak c.here then
      let (b, c) := c.lineBreak
      let (bs, c) := blockBreaks indent fuel c
      (b :: bs, c)
    else ([], c)

/-- The lines of a block scalar: the text, the last break, the breaks after it, and the position after
them. `breaks` are those before the next line. -/
def blockLines (folded : Bool) (indent : Nat) :
    (fuel : Nat) → (breaks : List (List Char)) → (last : List Char) → Cursor →
      List Char × List Char × List (List Char) × Cursor
  | 0, breaks, last, c => ([], last, breaks, c)
  | fuel + 1, breaks, last, c =>
    if c.column == indent && c.here != '\x00' then
      let lead := breaks.flatten
      let solid := !(c.here == ' ' || c.here == '\t')
      let line := c.run (!isLineEnd ·)
      let (last, c) := (c.forward line.length).lineBreak
      let (breaks, c) := blockBreaks indent (c.rest.length + 1) c
      if c.column == indent && c.here != '\x00' then
        let joint :=
          if folded && last == ['\n'] && solid && !(c.here == ' ' || c.here == '\t') then
            (if breaks.isEmpty then [' '] else [])
          else last
        let (more, last, breaks, c) := blockLines folded indent fuel breaks last c
        (lead ++ line ++ joint ++ more, last, breaks, c)
      else (lead ++ line, last, breaks, c)
    else ([], last, breaks, c)

/-- A block scalar in a collection indented by `parentIndent` columns less one. -/
def scanBlock (folded : Bool) (parentIndent : Nat) (c : Cursor) : Except Fault Scanned := do
  let (chomp, increment, c) ← blockHeader c.step
  let least := max parentIndent 1
  let (indent, breaks, c) := match increment with
    | none =>
      let (breaks, widest, c) := blockIndentation (c.rest.length + 1) 0 c
      (max least widest, breaks, c)
    | some n =>
      let indent := least + n - 1
      let (breaks, c) := blockBreaks indent (c.rest.length + 1) c
      (indent, breaks, c)
  let (text, last, breaks, c) := blockLines folded indent (c.rest.length + 1) breaks [] c
  let tail := match chomp with
    | .strip => []
    | .clip => last
    | .keep => last ++ breaks.flatten
  return ⟨.ofChars (text ++ tail), c, true⟩

end DartSurvey.Yaml
