import DartSurvey.Json.Printer
import DartSurvey.Policy
import DartSurvey.Report.Record

/-! # Rendered reports

A report is written in one of three formats: JSON with one record on each line, Markdown, or plain text
under any other name. In the two text formats a heading announces the path of the records below it, and a
new one stands wherever the path changes. `render` is the text of a report; `write` writes it record by
record and counts the records.
-/

namespace DartSurvey.Report

/-- An output format. -/
inductive Format where
  | json
  | markdown
  /-- Plain text, under the name by which it was asked for. -/
  | plain (name : String)
deriving DecidableEq

/-- The format of a name. -/
def Format.ofName (name : String) : Format :=
  if name == "json" then .json else if name == "markdown" then .markdown else .plain name

/-- The name of a format. -/
def Format.name : Format → String
  | .json => "json"
  | .markdown => "markdown"
  | .plain name => name

/-- A character repeated. -/
def rule (c : Char) (n : Nat) : String := String.ofList (List.replicate n c)

/-- The head of a report: the directory, the format and the options. JSON has none. -/
def banner (format : Format) (directory : String) (p : Policy) : String :=
  match format with
  | .json => ""
  | .markdown =>
    "# Dart Inspect Report\n\n## Configuration\n\n- Directory: `" ++ directory ++ "`\n- Format: markdown\n"
      ++ (if p.options.isEmpty then "- Options: (none)\n"
          else "- Options:\n" ++ lines (p.options.map ("  " ++ ·)))
      ++ "\n"
  | .plain name =>
    "dart_inspect\n" ++ rule '─' 60 ++ "\nDirectory : " ++ directory ++ "\nFormat    : " ++ name
      ++ "\nOptions   : "
      ++ (if p.options.isEmpty then "(none)" else String.intercalate ", " p.options) ++ "\n\n"

/-- The heading above the records of a path. -/
def heading (format : Format) (path : Value) : String :=
  match format with
  | .json => ""
  | .markdown => rule '-' 80 ++ "\n\n## " ++ path.shown ++ "\n\n"
  | .plain _ => rule '=' 80 ++ "\n" ++ path.shown ++ "\n\n"

/-- A record below its heading, or on its line. -/
def Record.render (format : Format) (r : Record) : String :=
  match format with
  | .json => Json.render r.toValue ++ "\n"
  | .markdown =>
    r.markdown false ++ "\n" ++ (match r with
      | .fileImports _ _ => "\n"
      | .classFields _ _ _ => "")
  | .plain _ =>
    match r with
    | .fileImports imports _ => "Imports:\n" ++ lines (imports.map fun i => "  " ++ i.text) ++ "\n"
    | .classFields _ _ _ => r.text false ++ "\n"

/-- Whether a heading stands above a record, given the path of the record before it. -/
def startsSection (last : Option Value) (path : Value) : Bool :=
  match last with
  | none => true
  | some p => !path.same p

/-- The records below the record of path `last`, or at the head of a report without one. -/
def renderFrom (format : Format) (last : Option Value) : List Record → String
  | [] => ""
  | r :: rest =>
    match format with
    | .json => r.render .json ++ renderFrom .json last rest
    | f =>
      if startsSection last r.path then
        heading f r.path ++ r.render f ++ renderFrom f (some r.path) rest
      else r.render f ++ renderFrom f last rest

/-- The records of a report as text. -/
def render (format : Format) (records : List Record) : String := renderFrom format none records

/-! ## Record by record -/

/-- A report under way: what has been written, the number of its records, and the path in its last
heading, if it has one. -/
structure Sheet where
  text : String := ""
  count : Nat := 0
  last : Option Value := none

/-- Writes one more record. -/
def Sheet.add (format : Format) (s : Sheet) (r : Record) : Sheet :=
  match format with
  | .json => { s with text := s.text ++ r.render .json, count := s.count + 1 }
  | f =>
    if startsSection s.last r.path then
      ⟨s.text ++ heading f r.path ++ r.render f, s.count + 1, some r.path⟩
    else { s with text := s.text ++ r.render f, count := s.count + 1 }

/-- Writes records one after the other. -/
def write (format : Format) (records : List Record) : Sheet := records.foldl (Sheet.add format) {}

/-- One step writes what the report has of the record. -/
theorem Sheet.text_add (format : Format) (s : Sheet) (r : Record) (rest : List Record) :
    (s.add format r).text ++ renderFrom format (s.add format r).last rest
      = s.text ++ renderFrom format s.last (r :: rest) := by
  cases format with
  | json => simp [Sheet.add, renderFrom, String.append_assoc]
  | markdown =>
    by_cases h : startsSection s.last r.path = true <;> simp [Sheet.add, renderFrom, h, String.append_assoc]
  | plain name =>
    by_cases h : startsSection s.last r.path = true <;> simp [Sheet.add, renderFrom, h, String.append_assoc]

theorem Sheet.count_add (format : Format) (s : Sheet) (r : Record) :
    (s.add format r).count = s.count + 1 := by
  cases format with
  | json => rfl
  | markdown => by_cases h : startsSection s.last r.path = true <;> simp [Sheet.add, h]
  | plain name => by_cases h : startsSection s.last r.path = true <;> simp [Sheet.add, h]

/-- Further records are written behind what is there, and counted. -/
theorem Sheet.foldl_add (format : Format) (s : Sheet) (records : List Record) :
    (records.foldl (Sheet.add format) s).text = s.text ++ renderFrom format s.last records ∧
      (records.foldl (Sheet.add format) s).count = s.count + records.length := by
  induction records generalizing s with
  | nil => simp [renderFrom]
  | cons r rest ih =>
    obtain ⟨htext, hcount⟩ := ih (s.add format r)
    rw [List.foldl_cons, htext, hcount, Sheet.text_add, Sheet.count_add, List.length_cons]
    exact ⟨rfl, by omega⟩

@[simp] theorem text_write (format : Format) (records : List Record) :
    (write format records).text = render format records := by
  rw [write, (Sheet.foldl_add format {} records).1, String.empty_append]
  rfl

@[simp] theorem count_write (format : Format) (records : List Record) :
    (write format records).count = records.length := by
  rw [write, (Sheet.foldl_add format {} records).2, Nat.zero_add]

end DartSurvey.Report
