import DartSurvey.Dart.Comment
import DartSurvey.Dart.Modifier
import DartSurvey.Dart.StringLiteral
import DartSurvey.Dart.TypeText
import DartSurvey.SourceUnit
import DartSurvey.Text.Utf8
import DartSurvey.Tree.Diagnostic

/-! # From syntax trees to source units

`SourceUnit.ofTree` reads the directives and the declarations off the children of the root of a Dart
syntax tree. Names, types and addresses are cut out of the bytes of the source by the ranges of the nodes;
a range that cuts a character in two loses that character.
-/

namespace DartSurvey

namespace Tree

open Dart

/-- The characters of the bytes from `start` up to `stop`. -/
def slice (source : List UInt8) (start stop : Nat) : List Char :=
  Text.Utf8.decodeWhole ((source.drop start).take (stop - start))

/-- The characters of a node. -/
def Node.chars (source : List UInt8) (n : Node) : List Char := slice source n.start n.stop

/-- The text of a node. -/
def Node.text (source : List UInt8) (n : Node) : String := String.ofList (n.chars source)

/-! ## Directives -/

/-- The keyword of a directive that is no import, by the kind of its node. -/
def directiveKeyword? (kind : String) : Option String :=
  if kind == "library_name" then some "library"
  else if kind == "part_directive" then some "part"
  else if kind == "part_of_directive" then some "part of"
  else if kind == "library_export" then some "export"
  else none

/-- The import of a specification: the address is the first literal in it, the name it is imported under
its first identifier, and it is deferred if the word stands in the text between the two, or up to the end
without a name. -/
def importOf (source : List UInt8) (spec : Node) : Directive :=
  let uriNode := (spec.findFirst "uri").or (spec.findFirst "string_literal")
  let nameNode := spec.namedChild "identifier"
  let uri := uriNode.bind fun n => literalValue? (n.text source)
  let asName := nameNode.map (·.text source)
  let deferred := match uriNode with
    | none => false
    | some n =>
      let stop := match nameNode with
        | some m => m.start
        | none => spec.stop
      Text.hasWord "deferred".toList false (stripComments (slice source n.stop stop))
  .importing uri asName deferred

/-- The directive a child of the root stands for. -/
def directiveOf? (source : List UInt8) (n : Node) : Option Directive :=
  match directiveKeyword? n.kind with
  | some keyword => some (.other keyword)
  | none =>
    if n.kind == "import_or_export" || n.kind == "library_import" || n.kind == "import_specification" then
      match n.findFirst "import_specification" with
      | some spec => some (importOf source spec)
      | none => some (.other (if (n.findFirst "library_export").isSome then "export" else n.kind))
    else none

/-! ## Declarations -/

/-- Whether a node of this kind is an annotation or a comment. -/
def isNonCode (kind : String) : Bool :=
  kind == "annotation" || kind == "marker_annotation" || kind == "comment"
    || kind == "documentation_comment"

/-- Whether a node of this kind lists the names of a field declaration. -/
def isNameList (kind : String) : Bool :=
  kind == "initialized_identifier_list" || kind == "static_final_declaration_list"
    || kind == "identifier_list"

/-- The name that an item of a name list declares. -/
def declaredName? (source : List UInt8) (n : Node) : Option String :=
  if n.kind == "identifier" then some (n.text source)
  else if n.kind == "initialized_identifier" || n.kind == "static_final_declaration" then
    (n.namedChild "identifier").map (·.text source)
  else none

/-- The names of a name list. -/
def declaredNames (source : List UInt8) (list : Node) : List String :=
  list.namedChildren.filterMap (declaredName? source)

/-- Where the head of a declaration starts: after the last annotation or comment among the children that
start before the names, or else where the declaration does. -/
def headStart (start namesStart : Nat) : List Node → Nat
  | [] => start
  | child :: rest =>
    if namesStart ≤ child.start then start
    else headStart (if isNonCode child.kind then child.stop else start) namesStart rest

/-- The fields a head and a list of names declare. -/
def fieldsOf (head : List Char) (names : List String) : Member :=
  let (modifiers, rest) := leadingModifiers (stripComments head)
  let type := normaliseTypeChars rest
  .fields names (if type.isEmpty then none else some (String.ofList type))
    (modifiers.contains .final) (modifiers.contains .static)

/-- The member a child of a class body stands for. -/
def memberOf (source : List UInt8) (n : Node) : Member :=
  if n.kind == "declaration" then
    match n.namedChildren.find? (isNameList ·.kind) with
    | none => .other n.kind
    | some list =>
      fieldsOf (slice source (headStart n.start list.start n.children) list.start)
        (declaredNames source list)
  else .other n.kind

/-- The class a definition stands for. -/
def classOf (source : List UInt8) (n : Node) : Declaration :=
  let name := (n.childInRole "name").or (n.namedChild "identifier")
  let body := (n.childInRole "body").or (n.namedChild "class_body")
  let members := match body with
    | none => []
    | some b => b.namedChildren.map (memberOf source)
  .classOf ((name.map (·.text source)).getD "") members

/-- Whether a child of the root is a declaration: it is named, and neither a comment, an annotation, a
directive nor a script tag. -/
def isDeclaration (n : Node) : Bool :=
  n.named && !isNonCode n.kind && (directiveKeyword? n.kind).isNone && n.kind != "import_or_export"
    && n.kind != "library_import" && n.kind != "script_tag"

/-- The declaration a child of the root stands for. -/
def declarationOf? (source : List UInt8) (n : Node) : Option Declaration :=
  if !isDeclaration n then none
  else if n.kind == "class_definition" then some (classOf source n)
  else some (.other n.kind ((n.childInRole "name").map (·.text source)))

end Tree

open DartSurvey.Tree

/-- The unit of a tree over the bytes of its source. -/
def SourceUnit.ofTree (source : List UInt8) (root : Node) : SourceUnit where
  directives := root.children.filterMap (directiveOf? source)
  declarations := root.children.filterMap (declarationOf? source)
  diagnostics := root.diagnostics

end DartSurvey
