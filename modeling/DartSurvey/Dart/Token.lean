import DartSurvey.Text.Blank
import DartSurvey.Text.Utf8

/-! # Dart tokens

`tokens` cuts Dart source into names, numbers, string literals, comments and marks, each with the range of
bytes it covers. A literal is one token, whatever its interpolations hold; block comments nest. Only `==`
and `=>` are marks of two characters. Every lexeme takes at least one character of the text, which is why
the cutting ends.
-/

namespace DartSurvey.Dart

open Text

/-- The kinds of lexemes. -/
inductive TokenKind where
  | blank | comment | docComment | script | name | number | literal | mark
deriving DecidableEq

/-- A token and the range of bytes it covers. -/
structure Token where
  kind : TokenKind
  text : String
  start : Nat
  stop : Nat
deriving DecidableEq

/-! ## The extent of a lexeme -/

/-- The number of characters from the start of a text up to the end of the comment that is `depth` levels
deep there; `skip` characters belong to a mark seen before. -/
def blockCommentLength (depth skip : Nat) : List Char → Nat
  | [] => 0
  | c :: cs =>
    match skip with
    | skip + 1 => 1 + blockCommentLength depth skip cs
    | 0 =>
      if depth == 0 then 0
      else if c == '/' && cs.head? == some '*' then 1 + blockCommentLength (depth + 1) 1 cs
      else if c == '*' && cs.head? == some '/' then 1 + blockCommentLength (depth - 1) 1 cs
      else 1 + blockCommentLength depth 0 cs

/-- What encloses a character inside a literal. -/
inductive Enclosure where
  | literal (raw : Bool) (quote : List Char)
  | braces
  | lineComment
  | blockComment

/-- The quotes that open a literal at the start of a text. -/
def openingQuote? (cs : List Char) : Option (List Char) :=
  [['\'', '\'', '\''], ['"', '"', '"'], ['\''], ['"']].find? (·.isPrefixOf cs)

/-- The number of characters from the start of a text up to the end of its enclosures, the innermost first.
An interpolation puts braces into a literal, and in braces there may be literals and comments again. -/
def literalLength (enclosures : List Enclosure) (skip : Nat) : List Char → Nat
  | [] => 0
  | c :: cs =>
    match skip with
    | skip + 1 => 1 + literalLength enclosures skip cs
    | 0 =>
      match enclosures with
      | [] => 0
      | .literal raw quote :: outer =>
        if quote.isPrefixOf (c :: cs) then 1 + literalLength outer (quote.length - 1) cs
        else if !raw && c == '\\' then 1 + literalLength enclosures 1 cs
        else if !raw && c == '$' && cs.head? == some '{' then
          1 + literalLength (.braces :: enclosures) 1 cs
        else 1 + literalLength enclosures 0 cs
      | .braces :: outer =>
        if c == '}' then 1 + literalLength outer 0 cs
        else if c == '{' then 1 + literalLength (.braces :: enclosures) 0 cs
        else if c == '/' && cs.head? == some '/' then 1 + literalLength (.lineComment :: enclosures) 0 cs
        else if c == '/' && cs.head? == some '*' then 1 + literalLength (.blockComment :: enclosures) 1 cs
        else
          match (if c == 'r' then openingQuote? cs else none), openingQuote? (c :: cs) with
          | some quote, _ => 1 + literalLength (.literal true quote :: enclosures) quote.length cs
          | none, some quote => 1 + literalLength (.literal false quote :: enclosures) (quote.length - 1) cs
          | none, none => 1 + literalLength enclosures 0 cs
      | .lineComment :: outer =>
        if c == '\n' then 1 + literalLength outer 0 cs else 1 + literalLength enclosures 0 cs
      | .blockComment :: outer =>
        if c == '/' && cs.head? == some '*' then 1 + literalLength (.blockComment :: enclosures) 1 cs
        else if c == '*' && cs.head? == some '/' then 1 + literalLength outer 1 cs
        else 1 + literalLength enclosures 0 cs

/-- Whether an identifier can start with a character. -/
def startsName (c : Char) : Bool := c.isAlpha || c == '_' || c == '$'

/-- Whether an identifier can go on with a character. -/
def continuesName (c : Char) : Bool := c.isAlphanum || c == '_' || c == '$'

/-- Whether a character separates tokens; a byte order mark does. -/
def isSeparator (c : Char) : Bool := isBlank c || c == '\ufeff'

/-- The length of the longest start of a text that satisfies a test throughout. -/
def runLength (p : Char → Bool) (cs : List Char) : Nat := (cs.takeWhile p).length

/-- The kind and the length of the lexeme that starts with `c` and goes on into `cs`. -/
def lexeme (c : Char) (cs : List Char) : TokenKind × Nat :=
  if isSeparator c then (.blank, 1 + runLength isSeparator cs)
  else
    match c, cs with
    | '/', '/' :: rest =>
      (if rest.head? == some '/' then .docComment else .comment, 1 + runLength (· != '\n') cs)
    | '/', '*' :: rest =>
      (if rest.head? == some '*' then .docComment else .comment, 1 + (1 + blockCommentLength 1 0 rest))
    | _, _ =>
      match (if c == 'r' then openingQuote? cs else none), openingQuote? (c :: cs) with
      | some quote, _ => (.literal, 1 + literalLength [.literal true quote] quote.length cs)
      | none, some quote => (.literal, 1 + literalLength [.literal false quote] (quote.length - 1) cs)
      | none, none =>
        if startsName c then (.name, 1 + runLength continuesName cs)
        else if c.isDigit then (.number, 1 + runLength continuesName cs)
        else if c == '=' && (cs.head? == some '=' || cs.head? == some '>') then (.mark, 2)
        else (.mark, 1)

/-- The tokens of a text that starts `offset` bytes into the source. -/
def tokensFrom (offset : Nat) : List Char → List Token
  | [] => []
  | c :: cs =>
    let (kind, length) := lexeme c cs
    let text := (c :: cs).take length
    let stop := offset + Utf8.size text
    let rest := tokensFrom stop (cs.drop (length - 1))
    if kind == .blank then rest else ⟨kind, String.ofList text, offset, stop⟩ :: rest
termination_by cs => cs.length
decreasing_by simp only [List.length_drop, List.length_cons]; omega

/-- The tokens of a text that starts `offset` bytes into the source, of which the first line is one token
if it starts with `#!`. -/
def tokensAt (offset : Nat) (source : List Char) : List Token :=
  match source with
  | '#' :: '!' :: _ =>
    let line := source.takeWhile (· != '\n')
    let stop := offset + Utf8.size line
    ⟨.script, String.ofList line, offset, stop⟩ :: tokensFrom stop (source.dropWhile (· != '\n'))
  | _ => tokensFrom offset source

/-- The tokens of Dart source, after a byte order mark. -/
def tokens (source : List Char) : List Token :=
  match source with
  | '\ufeff' :: rest => tokensAt (Utf8.size ['\ufeff']) rest
  | _ => tokensAt 0 source

/-- Whether a token is a comment. -/
def Token.isComment (t : Token) : Bool := t.kind == .comment || t.kind == .docComment

/-- Whether a token is a mark with this text. -/
def Token.isMark (mark : String) (t : Token) : Bool := t.kind == .mark && t.text == mark

/-- Whether a token is the name given. -/
def Token.isWord (word : String) (t : Token) : Bool := t.kind == .name && t.text == word

end DartSurvey.Dart
