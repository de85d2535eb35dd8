import DartSurvey.Dart.TokenGroup
import DartSurvey.Tree.Node

/-! # Reading Dart

`Dart.tree` builds the syntax tree of Dart source as far as a report needs it: imports with their
addresses and names, classes with their bodies, and the field declarations of a class. Other declarations
and members become single nodes. The text is taken to be well-formed Dart.

In a field declaration, a comment between two tokens is a child of the declaration, unless it lies inside
type arguments, a record type or a function type.
-/

namespace DartSurvey.Dart

open DartSurvey.Tree (Node)

/-- A node for one token. -/
def leaf (kind : String) (t : Token) : Node := { kind, start := t.start, stop := t.stop }

/-- A node for a comment. -/
def commentNode (t : Token) : Node :=
  leaf (if t.kind == .docComment then "documentation_comment" else "comment") t

/-- The end of the last token of a list, or `start` without one. -/
def stopOf (start : Nat) (ts : List Token) : Nat := (ts.getLast?.map (·.stop)).getD start

/-- A node for a run of tokens that is not looked into. -/
def block (kind : String) (first : Token) (ts : List Token) : Node :=
  { kind, start := first.start, stop := stopOf first.stop ts }

/-! ## Types

A reader of a part of a type returns the comments it has passed that lie directly in the declaration, and
the tokens that follow.
-/

/-- What remains after a part of a type, and the comments passed on the way. -/
structure Passed where
  comments : List Token
  rest : List Token

/-- Passes a mark and the comments before it, if that mark comes next. -/
def Passed.mark (mark : String) (p : Passed) : Passed :=
  match code p.rest with
  | t :: rest => if t.isMark mark then ⟨p.comments ++ Dart.comments p.rest, rest⟩ else p
  | [] => p

/-- Passes a group and the comments before it, if such a group comes next. -/
def Passed.group (opener : String) (p : Passed) : Passed :=
  if nextIsMark [opener] p.rest then
    ⟨p.comments ++ Dart.comments p.rest, skipTypeGroup opener p.rest⟩
  else p

/-- Passes a dot with the name after it, if they come next. -/
def Passed.qualifier (p : Passed) : Passed :=
  match code p.rest with
  | dot :: rest =>
    match code rest with
    | name :: after =>
      if dot.isMark "." && name.kind == .name then
        ⟨p.comments ++ Dart.comments p.rest ++ Dart.comments rest, after⟩
      else p
    | [] => p
  | [] => p

/-- What follows the word `Function` in a function type: type parameters, a question mark, parameters, and a
question mark again. The comments among them lie inside the function type. -/
def functionTail (ts : List Token) : List Token :=
  (((((Passed.mk [] ts).group "<").mark "?").group "(").mark "?").rest

/-- Passes the tails that make a type the result of a function type; the comments before a tail then lie
inside the function type. -/
def Passed.functionTails (p : Passed) : Passed :=
  match code p.rest with
  | t :: rest =>
    if t.isWord "Function" && (nextIsMark ["(", "<", "?"] rest || nextIsName rest) then
      let after := functionTail rest
      if after.length < p.rest.length then Passed.functionTails ⟨[], after⟩ else p
    else p
  | [] => p
termination_by p.rest.length

/-- Reads a type. -/
def readType? (ts : List Token) : Option Passed :=
  match code ts with
  | t :: rest =>
    if t.isMark "(" then
      some ((Passed.mark "?" ⟨[], skipTypeGroup "(" ts⟩).functionTails)
    else if t.isWord "Function" then
      some (Passed.functionTails ⟨[], functionTail rest⟩)
    else if t.kind == .name then
      some ((((Passed.mk [] rest).qualifier.group "<").mark "?").functionTails)
    else none
  | [] => none

/-! ## Field declarations -/

/-- Whether a name and what ends a declared name come next. -/
def startsNames (ts : List Token) : Bool :=
  match code ts with
  | t :: rest => t.kind == .name && nextIsMark ["=", ",", ";"] rest
  | [] => false

/-- The words that may stand before the type of a field. -/
def fieldModifiers : List String :=
  ["static", "final", "const", "late", "covariant", "external", "abstract", "var", "augment"]

/-- The comments among the modifiers at the start of a declaration, and what follows the modifiers. -/
def readModifiers : List Token → Passed
  | [] => ⟨[], []⟩
  | t :: ts =>
    if t.isComment then
      let p := readModifiers ts
      ⟨t :: p.comments, p.rest⟩
    else if t.kind == .name && fieldModifiers.contains t.text && !nextIsMark ["=", ",", ";"] ts then
      readModifiers ts
    else ⟨[], t :: ts⟩

/-- Reads the names of a declaration, each with its initialiser, up to the semicolon. -/
def readNames (ts : List Token) : List Node × List Token :=
  match code ts with
  | name :: rest =>
    if name.kind != .name then ([], ts)
    else
      let (init, after) := match code rest with
        | t :: value => if t.isMark "=" then splitInitialiser 0 0 false value else ([], rest)
        | [] => ([], [])
      let node : Node := { block "initialized_identifier" name init with
        children := [leaf "identifier" name] }
      match code after with
      | t :: more =>
        if t.isMark "," then
          if more.length < ts.length then
            let (nodes, rest) := readNames more
            (node :: nodes, rest)
          else ([node], [])
        else ([node], t :: more)
      | [] => ([node], [])
  | [] => ([], [])
termination_by ts.length

/-- Whether a list of tokens starts with an accessor, an operator or a factory instead of a type. -/
def startsMethod (ts : List Token) : Bool :=
  match code ts with
  | t :: rest => (t.isWord "get" || t.isWord "set" || t.isWord "factory" || t.isWord "operator") && nextIsName rest
  | [] => false

/-- The tokens from the names of a declaration on, and the comments passed since the modifiers. -/
def skipType? (ts : List Token) : Option Passed :=
  if startsNames ts then some ⟨comments ts, code ts⟩
  else if startsMethod ts then none
  else
    match readType? ts with
    | none => none
    | some p =>
      if startsNames p.rest then some ⟨comments ts ++ p.comments ++ comments p.rest, code p.rest⟩ else none

/-- Reads a field declaration with its semicolon. -/
def readField? (first : Token) (ts : List Token) : Option (Node × List Token) :=
  let modifiers := readModifiers (first :: ts)
  match skipType? modifiers.rest with
  | none => none
  | some head =>
    match readNames head.rest with
    | ([], _) => none
    | (names, rest) =>
      let start := (names.head?.map (·.start)).getD first.start
      let stop := (names.getLast?.map (·.stop)).getD first.stop
      let list : Node := { kind := "initialized_identifier_list", start, stop, children := names }
      some ({ kind := "declaration", start := first.start, stop,
              children := (modifiers.comments ++ head.comments).map commentNode ++ [list] },
        (splitStatement 0 rest).2)

/-! ## Annotations -/

/-- Whether a group in round brackets, after its opening bracket, is a record type before a declared name. -/
def isRecordType (ts : List Token) : Bool :=
  let (group, rest) := splitGroup opensTypeGroup closesTypeGroup 1 ts
  group.all fitsType &&
    match code (Passed.mark "?" ⟨[], rest⟩).rest with
    | t :: after => t.kind == .name && nextIsMark ["=", ",", ";", "("] after
    | [] => false

/-- What follows an annotation, from the tokens after its `@`: a name, a qualifier, type arguments, and
arguments. Arguments that do not directly follow may be a record type instead. -/
def skipAnnotation (ts : List Token) : List Token :=
  match ts with
  | name :: rest =>
    let p := (((Passed.mk [] rest).qualifier).qualifier).group "<"
    match code p.rest with
    | t :: after =>
      let before := (ts.take (ts.length - p.rest.length)).getLast?.map (·.stop)
      if t.isMark "(" && (before == some t.start || !isRecordType after) then
        (splitGroup opensGroup closesGroup 1 after).2
      else if name.kind == .name then p.rest else rest
    | [] => p.rest
  | [] => []

/-! ## Classes -/

/-- Reads one member of a class body, or a comment or an annotation before one. -/
def readMember (t : Token) (ts : List Token) : List Node × List Token :=
  if t.isComment then ([commentNode t], ts)
  else if t.isMark ";" then ([], ts)
  else if t.isMark "@" then ([leaf "annotation" t], skipAnnotation ts)
  else
    match readField? t ts with
    | some (node, rest) => ([node], rest)
    | none =>
      let (decl, rest) := splitDeclaration .signature 0 false (t :: ts)
      ([block "method_signature" t decl], rest)

/-- Reads the members of a class body. -/
def readMembers : List Token → List Node
  | [] => []
  | t :: ts =>
    let (nodes, rest) := readMember t ts
    if rest.length < ts.length + 1 then nodes ++ readMembers rest else nodes
termination_by ts => ts.length

/-- The words that may stand before `class`. -/
def classModifiers : List String :=
  ["abstract", "sealed", "base", "interface", "final", "mixin", "augment", "macro"]

/-- The name of a class and the tokens after it, if the tokens start with a class. -/
def readClassName? : List Token → Option (Token × List Token)
  | [] => none
  | t :: ts =>
    if t.isComment then readClassName? ts
    else if t.isWord "class" then
      match code ts with
      | name :: rest => if name.kind == .name then some (name, rest) else none
      | [] => none
    else if t.kind == .name && classModifiers.contains t.text then readClassName? ts
    else none

/-- The opening brace of a class body and the tokens after it; there is none if the declaration ends
first. -/
def readBodyStart? (depth : Nat) : List Token → Option (Token × List Token)
  | [] => none
  | t :: ts =>
    if depth == 0 && t.isMark "\x7b" then some (t, ts)
    else if depth == 0 && (t.isMark ";" || t.isMark "=") then none
    else readBodyStart? (if opensGroup t then depth + 1 else if closesGroup t then depth - 1 else depth) ts

/-- Reads a class. -/
def readClass? (first : Token) (ts : List Token) : Option (Node × List Token) :=
  match readClassName? (first :: ts) with
  | none => none
  | some (name, rest) =>
    let nameNode : Node := { leaf "identifier" name with role := some "name" }
    match readBodyStart? 0 rest with
    | none =>
      let (decl, rest) := splitStatement 0 rest
      some ({ block "class_definition" first decl with children := [nameNode] }, rest)
    | some (brace, rest) =>
      let (body, rest) := splitGroup opensGroup closesGroup 1 rest
      let bodyNode : Node := { block "class_body" brace body with
        role := some "body", children := readMembers body.dropLast }
      some ({ block "class_definition" first body with children := [nameNode, bodyNode] }, rest)

/-! ## Directives -/

/-- The literal at the start of a list of tokens; adjacent literals make one. -/
def readLiteral : List Token → List Token
  | [] => []
  | t :: ts => if t.isComment then readLiteral ts else if t.kind == .literal then t :: readLiteral ts else []

/-- The name after `as` outside all groups. It stands before the words that list what is shown or hidden. -/
def readAsName? (depth : Nat) : List Token → Option Token
  | [] => none
  | t :: ts =>
    if depth == 0 && t.isWord "as" then (nextCode? ts).filter (·.kind == .name)
    else if depth == 0 && (t.isWord "show" || t.isWord "hide") then none
    else readAsName? (if opensGroup t then depth + 1 else if closesGroup t then depth - 1 else depth) ts

/-- Reads an import: the word `import` with a literal after it. -/
def readImport? (first : Token) (ts : List Token) : Option (Node × List Token) :=
  if first.isWord "import" then
    match readLiteral ts with
    | [] => none
    | literal :: more =>
      let (stmt, rest) := splitStatement 0 ts
      let uri := block "uri" literal more
      let asName := ((readAsName? 0 stmt).map (leaf "identifier")).toList
      let spec : Node := { block "import_specification" first stmt with children := uri :: asName }
      some ({ spec with kind := "import_or_export", children := [spec] }, rest)
  else none

/-- The kind of a directive that is no import, if the tokens start with one. -/
def otherDirective? (first : Token) (ts : List Token) : Option String :=
  let next := nextCode? ts
  let literal := next.any (·.kind == .literal)
  if first.isWord "export" && literal then some "library_export"
  else if first.isWord "part" && literal then some "part_directive"
  else if first.isWord "part" && next.any (·.isWord "of") then some "part_of_directive"
  else if first.isWord "library" && next.any (fun t => t.kind == .name || t.isMark ";") then
    some "library_name"
  else none

/-! ## Files -/

/-- Reads one directive or declaration, or a comment or an annotation before one. -/
def readItem (t : Token) (ts : List Token) : List Node × List Token :=
  if t.isComment then ([commentNode t], ts)
  else if t.kind == .script then ([leaf "script_tag" t], ts)
  else if t.isMark ";" then ([], ts)
  else if t.isMark "@" then ([leaf "annotation" t], skipAnnotation ts)
  else
    match readImport? t ts with
    | some (node, rest) => ([node], rest)
    | none =>
      match otherDirective? t ts with
      | some kind =>
        let (stmt, rest) := splitStatement 0 ts
        ([block kind t stmt], rest)
      | none =>
        match readClass? t ts with
        | some (node, rest) => ([node], rest)
        | none =>
          let (decl, rest) := splitDeclaration .signature 0 false (t :: ts)
          ([block "declaration" t decl], rest)

/-- Reads the directives and declarations of a file. -/
def readItems : List Token → List Node
  | [] => []
  | t :: ts =>
    let (nodes, rest) := readItem t ts
    if rest.length < ts.length + 1 then nodes ++ readItems rest else nodes
termination_by ts => ts.length

/-- The syntax tree of Dart source. -/
def tree (source : List Char) : Node :=
  { kind := "program", start := 0, stop := Text.Utf8.size source, children := readItems (tokens source) }

end DartSurvey.Dart
