import DartSurvey.Proofs.Json.RoundTrip
import DartSurvey.Report.Decode
import DartSurvey.Report.Render

/-!
# Reports in JSON

- A record with a text or null for a path is rebuilt from the data it stands for
  (`ofValue_toValue`), since fields and imports are (`mapM_toValue`); the data is plain
  (`plain_toValue`), so its text is read back.
- A report in JSON is the lines of its records, one each (`render_json`).
- `render_json_lossless` puts this together: each line is of printable ASCII characters and gives
  back its record.
-/

namespace DartSurvey.Report

/-! ## Data -/

theorem Field.ofValue_toValue (f : Field) : Field.ofValue f.toValue = .ok f := rfl

/-- An import is rebuilt from its data: an empty address and a missing name come back as such. -/
theorem Import.ofValue_toValue (i : Import) : Import.ofValue i.toValue = .ok i := by
  obtain ⟨uri, name, deferred⟩ := i
  have huri : (if (Value.text uri).truthy then (Value.text uri).shown else "") = uri := by
    by_cases h : uri = ""
    · simp [Value.truthy, h]
    · simp [Value.truthy, Value.shown, h]
  have hof : Import.ofValue (Import.mk uri name deferred).toValue
      = .ok ⟨if (Value.text uri).truthy then (Value.text uri).shown else "", name, deferred⟩ := by
    cases name with
    | none => rfl
    | some name => rfl
  rw [hof, huri]

/-- What is rebuilt one by one is rebuilt as a list. -/
theorem mapM_toValue {α : Type} {toValue : α → Value} {ofValue : Value → Except DecodeError α}
    (h : ∀ a, ofValue (toValue a) = .ok a) (as : List α) : (as.map toValue).mapM ofValue = .ok as := by
  induction as with
  | nil => rfl
  | cons a as ih =>
    rw [List.map_cons, List.mapM_cons, h, ih]
    rfl

/-- The items of a list of data are found under its key, the empty list too. -/
theorem elementsAt_list {key : String} {entries : List (String × Value)} {items : List Value}
    (h : Value.lookup key entries = some (.list items)) : elementsAt key entries = .ok items := by
  rw [elementsAt, h]
  cases items with
  | nil => rfl
  | cons v vs => rfl

/-- A record is rebuilt from its data. -/
theorem Record.ofValue_toValue (r : Record) : Record.ofValue r.toValue = .ok r := by
  cases r with
  | classFields name fields path =>
    have hfields : elementsAt "fields" [("className", .text name), ("filePath", path),
        ("fields", .list (fields.map Field.toValue))] = .ok (fields.map Field.toValue) := elementsAt_list rfl
    have hread : Record.classOfValue (Record.classFields name fields path).toValue
        = .ok (.classFields name fields path) := by
      simp only [Record.classOfValue, Record.toValue, hfields]
      show (do let fields ← (fields.map Field.toValue).mapM Field.ofValue; Except.ok _) = _
      rw [mapM_toValue Field.ofValue_toValue]
      rfl
    exact hread
  | fileImports imports path =>
    have himports : elementsAt "imports" [("filePath", path), ("imports", .list (imports.map Import.toValue))]
        = .ok (imports.map Import.toValue) := elementsAt_list rfl
    have hread : Record.importsOfValue (Record.fileImports imports path).toValue
        = .ok (.fileImports imports path) := by
      simp only [Record.importsOfValue, Record.toValue, himports]
      show (do let imports ← (imports.map Import.toValue).mapM Import.ofValue; Except.ok _) = _
      rw [mapM_toValue Import.ofValue_toValue]
      rfl
    exact hread

theorem plainItems_map {α : Type} {toValue : α → Value} (h : ∀ a, Json.Plain (toValue a)) (as : List α) :
    Json.PlainItems (as.map toValue) := by
  induction as with
  | nil => trivial
  | cons a as ih => exact ⟨h a, ih⟩

theorem plain_ofText? (p : Option String) : Json.Plain (.ofText? p) := by
  cases p with
  | none => trivial
  | some s => trivial

/-- The data of a record with a plain path is plain. -/
theorem Record.plain_toValue {r : Record} (h : Json.Plain r.path) : Json.Plain r.toValue := by
  cases r with
  | classFields name fields path =>
    have hfield : ∀ f : Field, Json.Plain f.toValue := fun f => ⟨by simp, trivial, trivial, trivial⟩
    exact ⟨by simp, trivial, h, plainItems_map hfield fields, trivial⟩
  | fileImports imports path =>
    have himport : ∀ i : Import, Json.Plain i.toValue := fun i =>
      ⟨by simp, trivial, plain_ofText? i.asName, trivial, trivial⟩
    exact ⟨by simp, h, plainItems_map himport imports, trivial⟩

/-! ## Lines -/

/-- A report in JSON has the data of each record on a line. -/
theorem render_json (records : List Record) :
    render .json records = lines (records.map fun r => Json.render r.toValue) := by
  have hfrom : ∀ last, renderFrom .json last records
      = lines (records.map fun r => Json.render r.toValue) := by
    intro last
    induction records with
    | nil => rfl
    | cons r rest ih =>
      rw [renderFrom, ih]
      simp [lines, Record.render]
  exact hfrom none

/-- A line is not empty and has printable ASCII characters only. -/
theorem json_line {v : Value} (h : Json.Plain v) :
    Json.render v ≠ "" ∧ ∀ c ∈ (Json.render v).toList, Json.IsAscii c := by
  obtain ⟨c, cs, hc, -⟩ := Json.chars_head h
  rw [Json.render, String.toList_ofList]
  refine ⟨?_, Json.isAscii_chars h⟩
  rw [hc]
  simp

/-- **Reports in JSON are lossless.** The report on records whose paths are texts or null has one
line for each, of printable ASCII characters and ended by a line feed, and reading the lines one by
one gives the records back. -/
theorem render_json_lossless (records : List Record) (h : ∀ r ∈ records, ∃ p, r.path = .ofText? p) :
    ∃ ls : List String, render .json records = lines ls ∧ ls.length = records.length ∧
      (∀ line ∈ ls, line ≠ "" ∧ ∀ c ∈ line.toList, 0x20 ≤ c.toNat ∧ c.toNat ≤ 0x7f) ∧
      ls.map (fun line => (Json.parse line).map Record.ofValue) = records.map fun r => some (.ok r) := by
  have hplain : ∀ r ∈ records, Json.Plain r.toValue := by
    intro r hr
    obtain ⟨p, hp⟩ := h r hr
    refine Record.plain_toValue ?_
    rw [hp]
    exact plain_ofText? p
  refine ⟨records.map fun r => Json.render r.toValue, render_json records, by simp, ?_, ?_⟩
  · intro line hline
    obtain ⟨r, hr, rfl⟩ := List.mem_map.mp hline
    exact json_line (hplain r hr)
  · rw [List.map_map]
    apply List.map_congr_left
    intro r hr
    simp only [Function.comp_apply, Json.parse_render (hplain r hr), Option.map_some,
      Record.ofValue_toValue]

theorem render_json_lossless_sample :
    let records := [Record.classFields "A\n\u2028" [⟨"x", "Map<String, \"😀\">"⟩, ⟨"", "\x7f"⟩] .null,
      .fileImports [⟨"", none, true⟩, ⟨"dart:io", some "", false⟩] (.text "lib\\é.dart")]
    (∀ r ∈ records, ∃ p, r.path = .ofText? p) ∧
      ∃ ls : List String, render .json records = lines ls ∧ ls.length = 2 ∧
        (∀ line ∈ ls, line ≠ "" ∧ ∀ c ∈ line.toList, 0x20 ≤ c.toNat ∧ c.toNat ≤ 0x7f) ∧
        ls.map (fun line => (Json.parse line).map Record.ofValue)
          = records.map fun r => some (.ok r) := by
  intro records
  have h : ∀ r ∈ records, ∃ p, r.path = .ofText? p := by
    intro r hr
    simp only [records, List.mem_cons, List.not_mem_nil, or_false] at hr
    rcases hr with rfl | rfl
    · exact ⟨none, rfl⟩
    · exact ⟨some _, rfl⟩
  exact ⟨h, render_json_lossless records h⟩

end DartSurvey.Report
