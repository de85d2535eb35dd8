import DartSurvey.Value

/-! # Report records

A report is a list of records: the imports of a file, or the instance fields of a class. A record that
the program makes itself carries the path of its file as a text or null; one that is read back carries
whatever value stood there, so the path is a `Value`.
-/

namespace DartSurvey.Report

/-- An instance field: its name and its type as written. -/
structure Field where
  name : String
  type : String
deriving DecidableEq, Inhabited

/-- An import: the address, the name it is imported under, and whether it is loaded on demand. -/
structure Import where
  uri : String
  asName : Option String := none
  deferred : Bool := false
deriving DecidableEq, Inhabited

/-- One entry of a report. -/
inductive Record where
  /-- The instance fields of a class, in the order of their declaration. -/
  | classFields (name : String) (fields : List Field) (path : Value)
  /-- The imports of a file, in their order. -/
  | fileImports (imports : List Import) (path : Value)
deriving Inhabited

/-- The path of the file a record is about. -/
def Record.path : Record → Value
  | .classFields _ _ p => p
  | .fileImports _ p => p

/-! ## Records as data -/

/-- A field as data. -/
def Field.toValue (f : Field) : Value := .object [("name", .text f.name), ("type", .text f.type)]

/-- An import as data. -/
def Import.toValue (i : Import) : Value :=
  .object [("uri", .text i.uri), ("prefix", .ofText? i.asName), ("deferred", .bool i.deferred)]

/-- A record as data. -/
def Record.toValue : Record → Value
  | .classFields name fields path =>
    .object [("className", .text name), ("filePath", path), ("fields", .list (fields.map Field.toValue))]
  | .fileImports imports path =>
    .object [("filePath", path), ("imports", .list (imports.map Import.toValue))]

/-- Equality of records: the same kind, and equal in every part. -/
def Record.same : Record → Record → Bool
  | .classFields n fs p, .classFields m gs q => n == m && fs == gs && p.same q
  | .fileImports is p, .fileImports js q => is == js && p.same q
  | _, _ => false

/-! ## Records as text -/

/-- A field as text: the type before the name. -/
def Field.text (f : Field) : String := f.type ++ " " ++ f.name

/-- What follows the address of an import. -/
def Import.suffix (i : Import) : String :=
  (match i.asName with
    | none => ""
    | some name => " as " ++ name) ++ (if i.deferred then " (deferred)" else "")

/-- An import as plain text. -/
def Import.text (i : Import) : String := i.uri ++ i.suffix

/-- An import as an item of a Markdown list. -/
def Import.markdown (i : Import) : String := "- `" ++ i.uri ++ "`" ++ i.suffix

/-- The lines of a text, each ended by a line feed. -/
def lines (ls : List String) : String := String.join (ls.map (· ++ "\n"))

/-- Whether a record names its path: a class record when the path counts as true, an imports record when
it is not null. -/
def Record.namesPath : Record → Bool
  | .classFields _ _ path => path.truthy
  | .fileImports _ path => match path with
    | .null => false
    | _ => true

/-- The title of a record. -/
def Record.title : Record → String
  | .classFields name _ _ => name
  | .fileImports _ _ => "Imports"

/-- The items of a record as plain text. -/
def Record.itemTexts : Record → List String
  | .classFields _ fields _ => fields.map Field.text
  | .fileImports imports _ => imports.map Import.text

/-- The items of a record as a Markdown list. -/
def Record.itemMarkdown : Record → List String
  | .classFields _ fields _ => fields.map fun f => "- " ++ f.text
  | .fileImports imports _ => imports.map Import.markdown

/-- A record as Markdown, with its path when `withPath` asks for it and the record names it. -/
def Record.markdown (withPath : Bool) (r : Record) : String :=
  "### " ++ r.title ++ "\n"
    ++ (if withPath && r.namesPath then "\nFile: " ++ r.path.shown ++ "\n" else "")
    ++ "\n" ++ lines r.itemMarkdown

/-- A record as plain text, with its path when `withPath` asks for it and the record names it. -/
def Record.text (withPath : Bool) (r : Record) : String :=
  r.title ++ (if withPath && r.namesPath then " (" ++ r.path.shown ++ ")" else "") ++ "\n"
    ++ lines (r.itemTexts.map ("  " ++ ·))

end DartSurvey.Report
