import DartSurvey.CommandLine.Run
import DartSurvey.Proofs.Disk.Direct
import DartSurvey.Proofs.Report.Extraction
import DartSurvey.Proofs.Scan.Coverage
import DartSurvey.Proofs.Scan.Distinct
import DartSurvey.Proofs.Scan.Drain

/-!
# Sections of a report

In the two text formats a report of a directory falls into sections, one for each source file with a
record: the heading with the path of the file, and below it its records without the path.

- What stands below a heading does not depend on the path of the records (`render_withoutPath`), and the
  records of one path get one heading (`renderFrom_same`).
- The writer compares a path only with the one before. If the records come file by file, and no two files
  have the same path, the report is made of their sections all the same (`renderFrom_files`).
- The records of a drained scan come so (`path_of_mem_fileRecords`, `nodup_texts`), which gives
  `render_scan_eq_sections`.
-/

namespace DartSurvey.Report

/-- A record without its path. -/
def Record.withoutPath : Record → Record
  | .classFields name fields _ => .classFields name fields .null
  | .fileImports imports _ => .fileImports imports .null

/-- The section of a path: its heading, and below it its records without the path. -/
def sectionText (format : Format) (path : String) (records : List Record) : String :=
  heading format (.text path) ++ String.join (records.map fun r => r.withoutPath.render format)

/-- That the last heading, if there is one, has none of these paths. -/
def HeadingAbove (last : Option Value) (paths : List String) : Prop :=
  ∀ p, last = some p → ∃ path, p = .text path ∧ path ∉ paths

/-- A text or null is the same as itself only. -/
theorem same_ofText?_iff (path : Option String) (v : Value) :
    (Value.ofText? path).same v = true ↔ v = .ofText? path := by
  cases path with
  | none => cases v <;> simp [Value.ofText?, Value.same, Value.sameScalar, Value.asInt?]
  | some s =>
    cases v with
    | text t =>
      have hsame : (Value.text s).same (.text t) = (s == t) := rfl
      rw [Value.ofText?, hsame, beq_iff_eq, Value.text.injEq, eq_comm]
    | null | bool _ | int _ | real _ | list _ | object _ =>
      simp [Value.ofText?, Value.same, Value.sameScalar, Value.asInt?]

/-- A path that is a text or null gets no heading just where the last heading has it. -/
theorem startsSection_eq_false_iff (last : Option Value) (path : Option String) :
    startsSection last (.ofText? path) = false ↔ last = some (.ofText? path) := by
  cases last with
  | none => simp [startsSection]
  | some p => rw [startsSection, Bool.not_eq_false', same_ofText?_iff, Option.some.injEq]

section TextFormats

variable {format : Format} (hformat : format ≠ .json)

include hformat

/-- A record is rendered without its path. -/
theorem Record.render_withoutPath (r : Record) : r.withoutPath.render format = r.render format := by
  cases format with
  | json => exact absurd rfl hformat
  | markdown => cases r <;> simp [Record.render, Record.withoutPath, Record.markdown, Record.title,
      Record.itemMarkdown]
  | plain name => cases r <;> simp [Record.render, Record.withoutPath, Record.text, Record.title,
      Record.itemTexts]

/-- One step of the writer. -/
theorem renderFrom_cons (last : Option Value) (r : Record) (rest : List Record) :
    renderFrom format last (r :: rest) =
      if startsSection last r.path then
        heading format r.path ++ r.render format ++ renderFrom format (some r.path) rest
      else r.render format ++ renderFrom format last rest := by
  cases format with
  | json => exact absurd rfl hformat
  | markdown => rfl
  | plain name => rfl

/-- The records below a heading with their path get no heading of their own. -/
theorem renderFrom_same {path : Option String} {records : List Record}
    (h : ∀ r ∈ records, r.path = .ofText? path) (rest : List Record) :
    renderFrom format (some (.ofText? path)) (records ++ rest) =
      String.join (records.map fun r => r.withoutPath.render format)
        ++ renderFrom format (some (.ofText? path)) rest := by
  induction records with
  | nil => simp
  | cons r records ih =>
    have hsame : startsSection (some (.ofText? path)) r.path = false := by
      rw [h r List.mem_cons_self]
      exact (startsSection_eq_false_iff _ path).mpr rfl
    rw [List.cons_append, renderFrom_cons hformat, hsame, if_neg Bool.false_ne_true,
      ih fun r' hr' => h r' (List.mem_cons_of_mem r hr'), List.map_cons, String.join_cons,
      Record.render_withoutPath hformat, String.append_assoc]

/-- Records that come file by file, from files with different paths, make up one section for each file with
a record. -/
theorem renderFrom_files {α : Type} (pathOf : α → String) (recordsOf : α → List Record) {files : List α}
    (hpaths : ∀ file ∈ files, ∀ r ∈ recordsOf file, r.path = .text (pathOf file))
    (hnodup : (files.map pathOf).Nodup) {last : Option Value} (hlast : HeadingAbove last (files.map pathOf)) :
    renderFrom format last (files.flatMap recordsOf) =
      String.join ((files.filter fun file => !(recordsOf file).isEmpty).map fun file =>
        sectionText format (pathOf file) (recordsOf file)) := by
  induction files generalizing last with
  | nil => rfl
  | cons file files ih =>
    obtain ⟨hnew, hnodup⟩ := List.nodup_cons.mp hnodup
    have hrest := fun f hf => hpaths f (List.mem_cons_of_mem file hf)
    rw [List.flatMap_cons]
    cases hrecords : recordsOf file with
    | nil =>
      have habove : HeadingAbove last (files.map pathOf) := by
        intro p hp
        obtain ⟨path, hpath, hnot⟩ := hlast p hp
        exact ⟨path, hpath, fun hmem => hnot (List.mem_cons_of_mem _ hmem)⟩
      rw [List.nil_append, ih hrest hnodup habove, List.filter_cons_of_neg (by simp [hrecords])]
    | cons r records =>
      have hfile := hpaths file List.mem_cons_self
      rw [hrecords] at hfile
      have hr : r.path = .ofText? (some (pathOf file)) := hfile r List.mem_cons_self
      have hstarts : startsSection last r.path = true := by
        rw [← Bool.not_eq_false, hr, startsSection_eq_false_iff]
        intro heq
        obtain ⟨path, hpath, hnot⟩ := hlast _ heq
        cases hpath
        exact hnot List.mem_cons_self
      have habove : HeadingAbove (some (.ofText? (some (pathOf file)))) (files.map pathOf) := by
        intro p hp
        exact ⟨pathOf file, (Option.some.inj hp).symm, hnew⟩
      have hothers : ∀ r' ∈ records, r'.path = .ofText? (some (pathOf file)) :=
        fun r' hr' => hfile r' (List.mem_cons_of_mem r hr')
      rw [List.cons_append, renderFrom_cons hformat, hstarts, if_pos rfl, hr,
        renderFrom_same hformat hothers, ih hrest hnodup habove,
        List.filter_cons_of_pos (by simp [hrecords]), List.map_cons, String.join_cons]
      simp only [sectionText, hrecords, List.map_cons, String.join_cons, Record.render_withoutPath hformat,
        String.append_assoc, Value.ofText?]

end TextFormats

end DartSurvey.Report

namespace DartSurvey.Scan.Inspector

open Disk (Path)
open Report (Format Record)

variable (ins : Inspector) {disk : Disk}

/-- The records of a file have its path. -/
theorem path_of_mem_fileRecords {path : Path} {r : Record} (h : r ∈ ins.fileRecords disk path) :
    r.path = .text path.text := by
  unfold fileRecords at h
  cases htext : textOf? disk path with
  | none => simp [htext] at h
  | some text =>
    rw [htext] at h
    exact ((ins.parse text).record_of_mem_report h).1

/-- **One section for each file.** If all walked files can be read and decoded, a scan written in a text format
is the sequence, in the order of the walk, of the sections of the files that have a record. -/
theorem render_scan_eq_sections (hd : disk.root.WellFormed) (root : String)
    (hread : ∀ path ∈ (ins.sourceFiles disk root).files, (textOf? disk path).isSome) {format : Format}
    (hformat : format ≠ .json) :
    Report.render format (CommandLine.recordsOf (ins.drain disk (.directory root false)).items) =
      String.join (((ins.sourceFiles disk root).files.filter fun path => !(ins.fileRecords disk path).isEmpty).map
        fun path => Report.sectionText format path.text (ins.fileRecords disk path)) := by
  have hitems : CommandLine.recordsOf (ins.drain disk (.directory root false)).items
      = (ins.sourceFiles disk root).files.flatMap (ins.fileRecords disk) := by
    by_cases hroot : disk.isFolder (Path.ofString root) = true
    · rw [(ins.drain_readable hroot hread).1, CommandLine.recordsOf_map_record]
    · obtain ⟨hfiles, hnone⟩ := ins.drain_of_not_folder disk hroot
      rw [hfiles, hnone]
      rfl
  rw [hitems]
  refine Report.renderFrom_files hformat Path.text (ins.fileRecords disk) ?_ (ins.nodup_texts hd root) ?_
  · exact fun path _ r hr => ins.path_of_mem_fileRecords hr
  · exact fun p hp => absurd hp (Option.some_ne_none p).symm

/-- A directory with a folder before its files, of which the first has two records and the second none. -/
def sectionsFolder : Disk.Folder :=
  [("gen", .folder [("d.dart", .file [0x78])]), ("a.dart", .file [0x79]), ("b.dart", .file []),
    ("c.dart", .file [0x78])]

/-- The disk with that directory. -/
def sectionsDisk : Disk where
  base := "/work"
  root := [("lib", .folder sectionsFolder)]

/-- An inspector whose parser finds an import in the texts `x` and `y`, in the second a class as well, and nothing
in any other. -/
def sectionsInspector : Inspector where
  policy := .standard
  rules := []
  parse text :=
    if text == "x" then { directives := [.importing (some "u") none false] }
    else if text == "y" then
      { directives := [.importing (some "v") none false]
        declarations := [.classOf "A" [.fields ["n"] (some "T") false false]] }
    else {}

theorem wellFormed_sectionsDisk : sectionsDisk.root.WellFormed := by
  simp [sectionsDisk, sectionsFolder, Disk.Folder.WellFormed, Disk.Entry.WellFormed, Disk.IsName]

/-- The source files of that directory: its own before that of the folder. -/
theorem sourceFiles_sections :
    (sectionsInspector.sourceFiles sectionsDisk "lib").files =
      [⟨"", ["lib", "a.dart"]⟩, ⟨"", ["lib", "b.dart"]⟩, ⟨"", ["lib", "c.dart"]⟩,
        ⟨"", ["lib", "gen", "d.dart"]⟩] := by
  have hpath : Path.ofString "lib" = ⟨"", ["lib"]⟩ := by decide
  have hroot : sectionsDisk.reach (Path.ofString "lib") = .ok (.folder sectionsFolder) := by
    rw [hpath]
    exact Disk.find_folder ["lib"] (by decide) rfl (by decide)
  have hs : sectionsFolder.Storable := by
    simp only [sectionsFolder, Disk.Folder.Storable, Disk.Entry.Storable, Disk.CanStore]
    decide
  have hshort : ∀ place ∈ placesFrom isExamined [] sectionsFolder,
      ((Path.ofString "lib").text ++ "/" ++ Walk.relative place).utf8ByteSize < Disk.pathLimit := by
    simp only [placesFrom, sectionsFolder, placesBelow]
    decide
  rw [sectionsInspector.sourceFiles_of_short wellFormed_sectionsDisk rfl hroot hs hshort, hpath]
  simp only [placesFrom, sectionsFolder, placesBelow]
  decide

/-- Two files of a directory have sections, then one of its folder; the first section has two records, and a
file without records has no section. -/
theorem render_scan_eq_sections_sample :
    (sectionsDisk.root.WellFormed ∧
        (∀ path ∈ (sectionsInspector.sourceFiles sectionsDisk "lib").files, (textOf? sectionsDisk path).isSome) ∧
        Format.plain "simple" ≠ .json) ∧
      Report.render (.plain "simple")
          (CommandLine.recordsOf (sectionsInspector.drain sectionsDisk (.directory "lib" false)).items) =
        Report.rule '=' 80 ++ "\nlib/a.dart\n\nImports:\n  v\n\nA\n  T n\n\n"
          ++ Report.rule '=' 80 ++ "\nlib/c.dart\n\nImports:\n  u\n\n"
          ++ Report.rule '=' 80 ++ "\nlib/gen/d.dart\n\nImports:\n  u\n\n" := by
  have hfind : ∀ {name bytes}, Disk.isPlainName name = true →
      Disk.Folder.find? name sectionsFolder = some (.file bytes) →
      Disk.textError? (Disk.Path.mk "" ["lib", name]).text = none →
      textOf? sectionsDisk ⟨"", ["lib", name]⟩ = (Disk.decodeText bytes).toOption :=
    fun hname hfile htext => textOf?_of_find (Disk.find_file ["lib"] _ (by decide) rfl hname hfile htext)
  have ha : textOf? sectionsDisk ⟨"", ["lib", "a.dart"]⟩ = some "y" := by
    rw [hfind (by decide) rfl (by decide)]
    decide +kernel
  have hb : textOf? sectionsDisk ⟨"", ["lib", "b.dart"]⟩ = some "" := by
    rw [hfind (by decide) rfl (by decide)]
    decide +kernel
  have hc : textOf? sectionsDisk ⟨"", ["lib", "c.dart"]⟩ = some "x" := by
    rw [hfind (by decide) rfl (by decide)]
    decide +kernel
  have hgen : textOf? sectionsDisk ⟨"", ["lib", "gen", "d.dart"]⟩ = some "x" := by
    have hfile : sectionsDisk.find true ⟨"", ["lib", "gen", "d.dart"]⟩ = .ok (.file [0x78]) :=
      Disk.find_file ["lib", "gen"] "d.dart" (by decide) rfl (by decide) rfl (by decide)
    rw [textOf?_of_find hfile]
    decide +kernel
  have hread : ∀ path ∈ (sectionsInspector.sourceFiles sectionsDisk "lib").files,
      (textOf? sectionsDisk path).isSome := by
    simp [sourceFiles_sections, ha, hb, hc, hgen]
  refine ⟨⟨wellFormed_sectionsDisk, hread, by decide⟩, ?_⟩
  have hrecords : ∀ {path text}, textOf? sectionsDisk path = some text →
      sectionsInspector.fileRecords sectionsDisk path = sectionsInspector.recordsOf path text := by
    intro path text htext
    rw [fileRecords, htext]
    rfl
  rw [render_scan_eq_sections sectionsInspector wellFormed_sectionsDisk "lib" hread (by decide), sourceFiles_sections,
    List.filter_cons_of_pos (by rw [hrecords ha]; rfl), List.filter_cons_of_neg (by rw [hrecords hb]; decide),
    List.filter_cons_of_pos (by rw [hrecords hc]; rfl), List.filter_cons_of_pos (by rw [hrecords hgen]; rfl),
    List.filter_nil, List.map_cons, List.map_cons, List.map_singleton, hrecords ha, hrecords hc, hrecords hgen]
  decide +kernel

end DartSurvey.Scan.Inspector
