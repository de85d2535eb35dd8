import DartSurvey.Yaml.Scalar
import DartSurvey.Yaml.Property

/-! # Tokens of a YAML text

`tokens` reads a text from its start to its end. Indentation becomes tokens that open and close block
collections. Where a key of a mapping is not marked as one, the text before a colon turns out to be a key
only at the colon, so each place where such a key may start is remembered (`PendingKey`), and the token that
marks it is inserted there when the colon comes. A key of this kind has at most 1024 characters and one line.
-/

namespace DartSurvey.Yaml

/-- A place where an unmarked key may start. -/
structure PendingKey where
  /-- The number of flow collections around it. -/
  level : Nat
  /-- Whether nothing else than a key may stand there. -/
  required : Bool
  /-- The number of tokens before it. -/
  position : Nat
  index : Nat
  line : Nat
  column : Nat

/-- How far a text has been read. -/
structure LexState where
  cursor : Cursor
  tokens : Array Token := #[]
  /-- The number of flow collections around the position. -/
  flow : Nat := 0
  /-- The column of the innermost block collection; outside of all it is -1. -/
  indent : Int := -1
  /-- The columns of the block collections around that one. -/
  outer : List Int := []
  keyAllowed : Bool := true
  pending : List PendingKey := []

namespace LexState

/-- The state with one more token. -/
def push (s : LexState) (t : Token) : LexState := { s with tokens := s.tokens.push t }

/-- The state after passing `n` characters that make a token. -/
def take (s : LexState) (n : Nat) (t : Token) : LexState := { s.push t with cursor := s.cursor.forward n }

/-! ## Blanks and indentation -/

/-- Passes blanks, comments and line ends. Outside of flow collections a key may start on a new line. -/
def skipBlanks : (fuel : Nat) → LexState → LexState
  | 0, s => s
  | fuel + 1, s =>
    let c := (s.cursor.skip (· == ' ')).skipComment
    if isBreak c.here then
      skipBlanks fuel { s with cursor := c.lineBreak.2, keyAllowed := s.keyAllowed || s.flow == 0 }
    else { s with cursor := c }

/-- Closes the block collections indented by more than a column. -/
def closeBlocks (column : Int) : List Int → LexState → LexState
  | [], s => s
  | around :: outer, s =>
    if s.flow == 0 && s.indent > column then
      closeBlocks column outer { s.push .blockEnd with indent := around, outer }
    else s

/-- Closes the block collections that the indentation at a column ends. -/
def unwind (s : LexState) (column : Int) : LexState := closeBlocks column s.outer s

/-- Opens a block collection at a column, unless one is open there; its first token goes to `position`. -/
def openBlock (s : LexState) (column : Nat) (position : Nat) (t : Token) : LexState :=
  if s.indent < column then
    { s with
      indent := column
      outer := s.indent :: s.outer
      tokens := s.tokens.insertIdxIfInBounds position t }
  else s

/-! ## Keys that are not marked -/

/-- Whether a place can still be the start of a key. -/
def isLive (s : LexState) (k : PendingKey) : Bool :=
  k.line == s.cursor.line && s.cursor.index - k.index ≤ 1024

/-- The number of tokens that are settled: none is inserted before them. -/
def settled (s : LexState) : Nat := (s.pending.filter s.isLive).foldl (fun n k => min n k.position) s.tokens.size

/-- Forgets the places that can no longer be the start of a key. -/
def dropStale (s : LexState) : Except Fault LexState :=
  if s.pending.any fun k => !s.isLive k && k.required then .error .malformed
  else .ok { s with pending := s.pending.filter s.isLive }

/-- Forgets the place on the present level. -/
def dropPending (s : LexState) : Except Fault LexState :=
  if s.pending.any fun k => k.level == s.flow && k.required then .error .malformed
  else .ok { s with pending := s.pending.filter (·.level != s.flow) }

/-- Remembers the position as one where a key may start, if one may. -/
def markPending (s : LexState) : Except Fault LexState :=
  if s.keyAllowed then do
    let s ← s.dropPending
    let key : PendingKey :=
      { level := s.flow, required := s.flow == 0 && s.indent == s.cursor.column, position := s.tokens.size
        index := s.cursor.index, line := s.cursor.line, column := s.cursor.column }
    return { s with pending := key :: s.pending }
  else .ok s

/-! ## One token -/

/-- The end of the text. -/
def finish (s : LexState) : Except Fault LexState := do
  let s ← (s.unwind (-1)).dropPending
  return { s.push .streamEnd with keyAllowed := false, pending := [] }

/-- A directive. -/
def directive (s : LexState) : Except Fault LexState := do
  let s ← (s.unwind (-1)).dropPending
  let (d, cursor) ← readDirective s.cursor
  return { s.push (.directive d) with keyAllowed := false, cursor }

/-- A document marker. -/
def marker (s : LexState) (t : Token) : Except Fault LexState := do
  let s ← (s.unwind (-1)).dropPending
  return { s.take 3 t with keyAllowed := false }

/-- The start of a flow collection. -/
def flowStart (s : LexState) (t : Token) : Except Fault LexState := do
  let s ← s.markPending
  return { s.take 1 t with flow := s.flow + 1, keyAllowed := true }

/-- The end of a flow collection. -/
def flowEnd (s : LexState) (t : Token) : Except Fault LexState := do
  let s ← s.dropPending
  return { s.take 1 t with flow := s.flow - 1, keyAllowed := false }

/-- A comma. -/
def comma (s : LexState) : Except Fault LexState := do
  let s ← s.dropPending
  return { s.take 1 .flowEntry with keyAllowed := true }

/-- A mark that opens a block collection of the given kind where none is open, if it stands in one. -/
def blockMark (s : LexState) (opening : Token) : Except Fault LexState :=
  if s.flow != 0 then .ok s
  else if !s.keyAllowed then .error .malformed
  else .ok (s.openBlock s.cursor.column s.tokens.size opening)

/-- The mark of an item. -/
def item (s : LexState) : Except Fault LexState := do
  let s ← (← s.blockMark .blockSequenceStart).dropPending
  return { s.take 1 .blockEntry with keyAllowed := true }

/-- The mark of a key. -/
def markedKey (s : LexState) : Except Fault LexState := do
  let s ← (← s.blockMark .blockMappingStart).dropPending
  return { s.take 1 .key with keyAllowed := s.flow == 0 }

/-- The mark of a value. What stands before it is its key, if a key could start there. -/
def value (s : LexState) : Except Fault LexState :=
  match s.pending.find? (·.level == s.flow) with
  | some key =>
    let s := { s with
      pending := s.pending.filter (·.level != s.flow)
      tokens := s.tokens.insertIdxIfInBounds key.position .key }
    let s := if s.flow == 0 then s.openBlock key.column key.position .blockMappingStart else s
    .ok { s.take 1 .value with keyAllowed := false }
  | none => do
    let s ← (← s.blockMark .blockMappingStart).dropPending
    return { s.take 1 .value with keyAllowed := s.flow == 0 }

/-- An anchor, a reference or a tag. -/
def property (s : LexState) (read : Cursor → Except Fault (Token × Cursor)) : Except Fault LexState := do
  let s ← s.markPending
  let (t, cursor) ← read s.cursor
  return { s.push t with keyAllowed := false, cursor }

/-- The state after a scalar. -/
def scalar (s : LexState) (plain : Bool) (scanned : Scanned) : LexState :=
  { s.push (.scalar scanned.text plain) with
    keyAllowed := scanned.simpleKey, cursor := scanned.cursor }

/-- A block scalar. -/
def blockScalar (s : LexState) (folded : Bool) : Except Fault LexState := do
  let s ← s.dropPending
  return s.scalar false (← scanBlock folded (s.indent + 1).toNat s.cursor)

/-- A quoted scalar. -/
def quotedScalar (s : LexState) (double : Bool) : Except Fault LexState := do
  let s ← s.markPending
  return s.scalar false (← scanQuoted double s.cursor)

/-- A plain scalar. -/
def plainScalar (s : LexState) : Except Fault LexState := do
  let s ← s.markPending
  return s.scalar true (scanPlain (s.flow != 0) (s.indent + 1).toNat s.cursor)

/-- Whether a plain scalar may start with these characters. -/
def startsPlain (inFlow : Bool) (c next : Char) : Bool :=
  !(isGap c || "-?:,[]\x7b\x7d#&*!|>'\"%@\x60".toList.contains c)
    || (!isGap next && (c == '-' || (!inFlow && (c == '?' || c == ':'))))

/-- Reads the next token, with the tokens for the indentation before it. -/
def step (s : LexState) : Except Fault LexState := do
  let s ← (s.skipBlanks (s.cursor.rest.length + 1)).dropStale
  let s := s.unwind s.cursor.column
  let c := s.cursor
  let next := c.peek 1
  let inFlow := s.flow != 0
  if c.rest.isEmpty then s.finish
  else if c.here == '%' && c.column == 0 then s.directive
  else if c.column == 0 && c.isMarker '-' then s.marker .documentStart
  else if c.column == 0 && c.isMarker '.' then s.marker .documentEnd
  else if c.here == '[' then s.flowStart .flowSequenceStart
  else if c.here == '{' then s.flowStart .flowMappingStart
  else if c.here == ']' then s.flowEnd .flowSequenceEnd
  else if c.here == '}' then s.flowEnd .flowMappingEnd
  else if c.here == ',' then s.comma
  else if c.here == '-' && isGap next then s.item
  else if c.here == '?' && (inFlow || isGap next) then s.markedKey
  else if c.here == ':' && (inFlow || isGap next) then s.value
  else if c.here == '*' then s.property fun c => (readAnchor c).map fun (name, c) => (.reference name, c)
  else if c.here == '&' then s.property fun c => (readAnchor c).map fun (name, c) => (.anchor name, c)
  else if c.here == '!' then s.property readTag
  else if c.here == '|' && !inFlow then s.blockScalar false
  else if c.here == '>' && !inFlow then s.blockScalar true
  else if c.here == '\'' then s.quotedScalar false
  else if c.here == '"' then s.quotedScalar true
  else if startsPlain inFlow c.here next then s.plainScalar
  else .error .malformed

/-- All tokens from a state on. Where reading fails, only the settled tokens come before the fault: a token
that may start a key is not known before what follows it. -/
def finishAll : (fuel : Nat) → LexState → List Token
  | 0, s => s.tokens.toList
  | fuel + 1, s =>
    match s.step with
    | .error f => s.tokens.toList.take s.settled ++ [.fault f]
    | .ok s => if s.tokens.back? == some .streamEnd then s.tokens.toList else finishAll fuel s

end LexState

/-- Whether a character may stand in a text at all. -/
def isReadable (c : Char) : Bool :=
  c == '\t' || c == '\n' || c == '\r' || (' ' ≤ c && c ≤ '~') || c == '\x85'
    || ('\xa0' ≤ c && c.toNat ≤ 0xfffd) || 0x10000 ≤ c.toNat

/-- The tokens of a text. The last one is the end of the text or a fault. -/
def tokens (text : List Char) : List Token :=
  if !text.all isReadable then [.fault .malformed]
  else
    let start : Cursor := { rest := text }
    let start := if start.here == '\ufeff' then start.step else start
    LexState.finishAll (text.length + 2) { cursor := start }

end DartSurvey.Yaml
