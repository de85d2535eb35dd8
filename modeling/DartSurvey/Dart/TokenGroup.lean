import DartSurvey.Dart.Token

/-! # Groups of tokens

Brackets pair up in a list of tokens; these functions find where a group, a type, an initialiser or a
declaration ends without reading what is inside.
-/

namespace DartSurvey.Dart

/-- The tokens after the comments at the start. -/
def code (ts : List Token) : List Token := ts.dropWhile Token.isComment

/-- The comments at the start of a list of tokens. -/
def comments (ts : List Token) : List Token := ts.takeWhile Token.isComment

/-- The first token that is no comment. -/
def nextCode? (ts : List Token) : Option Token := (code ts).head?

/-- Whether the first token that is no comment is one of these marks. -/
def nextIsMark (marks : List String) (ts : List Token) : Bool :=
  (nextCode? ts).any fun t => t.kind == .mark && marks.contains t.text

/-- Whether the first token that is no comment is a name. -/
def nextIsName (ts : List Token) : Bool := (nextCode? ts).any (·.kind == .name)

/-- Whether a token opens a group in round, square or curly brackets. -/
def opensGroup (t : Token) : Bool := t.kind == .mark && ["(", "[", "\x7b"].contains t.text

/-- Whether a token closes such a group. -/
def closesGroup (t : Token) : Bool := t.kind == .mark && [")", "]", "\x7d"].contains t.text

/-- Whether a token opens a group among types, where angle brackets pair up too. -/
def opensTypeGroup (t : Token) : Bool := opensGroup t || t.isMark "<"

/-- Whether a token closes a group among types. -/
def closesTypeGroup (t : Token) : Bool := closesGroup t || t.isMark ">"

/-- The tokens up to the one that closes the last of `depth` open groups, that one included, and what
follows. -/
def splitGroup (opens closes : Token → Bool) (depth : Nat) : List Token → List Token × List Token
  | [] => ([], [])
  | t :: ts =>
    if opens t then
      let (group, rest) := splitGroup opens closes (depth + 1) ts
      (t :: group, rest)
    else if closes t then
      if depth ≤ 1 then ([t], ts)
      else
        let (group, rest) := splitGroup opens closes (depth - 1) ts
        (t :: group, rest)
    else
      let (group, rest) := splitGroup opens closes depth ts
      (t :: group, rest)

/-- What follows the group that the first code token opens among types; without one, the tokens as they
are. -/
def skipTypeGroup (opener : String) (ts : List Token) : List Token :=
  match code ts with
  | t :: rest => if t.isMark opener then (splitGroup opensTypeGroup closesTypeGroup 1 rest).2 else ts
  | [] => ts

/-- Whether a token can stand in a type. -/
def fitsType (t : Token) : Bool :=
  t.kind == .name || t.isComment
    || (t.kind == .mark && ["(", ")", "[", "]", "\x7b", "\x7d", "<", ">", ",", ".", "?"].contains t.text)

/-- Whether the tokens after `<` are type arguments: they may all stand in types up to the closing `>`, and,
after an operand, what follows fits a call, a selector or the end of an expression. -/
def areTypeArguments (afterOperand : Bool) (ts : List Token) : Bool :=
  let (group, rest) := splitGroup opensTypeGroup closesTypeGroup 1 ts
  group.all fitsType && (group.getLast?.any (·.isMark ">"))
    && (!afterOperand
      || nextIsMark ["(", ")", "[", "]", "\x7b", "\x7d", ",", ".", ";", ":", "?", "==", "!", "&", "|"] rest
      || (nextCode? rest).isNone)

/-- Whether an expression can end with a token. -/
def endsOperand (t : Token) : Bool :=
  match t.kind with
  | .name => !(["return", "const", "new", "in", "is", "as", "await", "throw", "case", "else"].contains t.text)
  | .number => true
  | .literal => true
  | .mark => [")", "]", "\x7d"].contains t.text
  | _ => false

/-- The tokens of an initialiser, up to the comma or semicolon that ends it, and what follows. `skip` tokens
are type arguments, `depth` groups are open, and `operand` says whether an operand has just ended. -/
def splitInitialiser (skip depth : Nat) (operand : Bool) : List Token → List Token × List Token
  | [] => ([], [])
  | t :: ts =>
    let go (skip depth : Nat) (operand : Bool) : List Token × List Token :=
      let (init, rest) := splitInitialiser skip depth operand ts
      (t :: init, rest)
    match skip with
    | skip + 1 => go skip depth false
    | 0 =>
      if depth == 0 && (t.isMark "," || t.isMark ";") then ([], t :: ts)
      else if t.isComment then go 0 depth operand
      else if opensGroup t then go 0 (depth + 1) false
      else if closesGroup t then go 0 (depth - 1) true
      else if depth == 0 && t.isMark "<" && areTypeArguments operand ts then
        go (splitGroup opensTypeGroup closesTypeGroup 1 ts).1.length depth false
      else go 0 depth (endsOperand t)

/-! ## The end of a declaration -/

/-- How far a declaration that is no field has been read. -/
inductive Stage where
  /-- Before a body. -/
  | signature
  /-- After `operator`, before the parameters. -/
  | operatorName
  /-- After a colon: the initialisers of a constructor. -/
  | initialisers
  /-- After `=` or `=>`: an expression. -/
  | expression
deriving DecidableEq

/-- Whether a member of a class, an annotation before one, or nothing at all comes next. A group in round
brackets is a member's record type if a name follows it. No member starts with another mark, or with the
words of a type test or a cast. -/
def startsMember (ts : List Token) : Bool :=
  let isMemberName (t : Token) : Bool := t.kind == .name && t.text != "is" && t.text != "as"
  match code ts with
  | [] => true
  | t :: rest =>
    isMemberName t || t.isMark "@"
      || (t.isMark "(" &&
        let after := (splitGroup opensTypeGroup closesTypeGroup 1 rest).2
        (nextCode? after).any isMemberName
          || (nextIsMark ["?"] after && (nextCode? ((code after).drop 1)).any isMemberName))

/-- Whether the block that has just been opened is the body of a constructor after its initialisers. The
block of a closure, a `switch` or a literal is a part of an initialiser instead: the list of initialisers
goes on behind it, or the body follows, so what comes behind it is no member. -/
def isConstructorBody (ts : List Token) : Bool := startsMember (splitGroup opensGroup closesGroup 1 ts).2

/-- The tokens of a declaration and what follows it. It ends with a semicolon outside all groups, or with
the block of its body. `body` says whether the group open at depth one is that block. -/
def splitDeclaration (stage : Stage) (depth : Nat) (body : Bool) : List Token → List Token × List Token
  | [] => ([], [])
  | t :: ts =>
    let go (stage : Stage) (depth : Nat) (body : Bool) : List Token × List Token :=
      let (decl, rest) := splitDeclaration stage depth body ts
      (t :: decl, rest)
    if t.isComment then go stage depth body
    else if stage == .operatorName && !t.isMark "(" then go stage depth body
    else
      let stage := if stage == .operatorName then .signature else stage
      if opensGroup t then
        let opensBody := depth == 0 && t.text == "\x7b" &&
          (stage == .signature || (stage == .initialisers && isConstructorBody ts))
        go stage (depth + 1) (body || opensBody)
      else if closesGroup t then
        if depth ≤ 1 && body then ([t], ts) else go stage (depth - 1) body
      else if depth == 0 && t.isMark ";" then ([t], ts)
      else if depth == 0 && stage == .signature && (t.isMark "=" || t.isMark "=>") then
        go .expression depth body
      else if depth == 0 && stage == .signature && t.isMark ":" then go .initialisers depth body
      else if depth == 0 && stage == .signature && t.isWord "operator" && !nextIsName ts then
        go .operatorName depth body
      else go stage depth body

/-- The tokens up to the first semicolon outside all groups, that one included, and what follows. -/
def splitStatement (depth : Nat) : List Token → List Token × List Token
  | [] => ([], [])
  | t :: ts =>
    if depth == 0 && t.isMark ";" then ([t], ts)
    else
      let (stmt, rest) :=
        splitStatement (if opensGroup t then depth + 1 else if closesGroup t then depth - 1 else depth) ts
      (t :: stmt, rest)

end DartSurvey.Dart
