import DartSurvey.Proofs.Disk.Shape
import DartSurvey.Proofs.Report.Extraction
import DartSurvey.Proofs.Scan.Distinct
import DartSurvey.Proofs.Scan.Drain

/-!
# What the bytes of a file change

Other bytes in one file change the records of that file, and nothing else of a scan.

- What a walk comes upon is determined by the shape of the disk (`arrivalAt_shape`, by recursion on the
  tree), so the source files and what breaks the walk off are as well (`sourceFiles_shape`).
- At most one of the files that are walked is the one at a given place (`leadsTo_unique`), and the records
  of the files tell by their path which they are (`isOf_record`).
- `SameBut own run run'`: two runs are the same but for one stretch of their own answers. The eager reports
  of two disks that differ in one file are so, by recursion on the files (`sameBut_eagerReport`), which gives
  `rewritten_file_changes_own_records`.
-/

namespace DartSurvey.Scan

open Disk (Entry Folder Path)
open Report (Record)

/-! ## Walks see the shape of a disk -/

section Course

variable (root : Path) (rules : List Exclude.Rule) (disk : Disk)

theorem fileAt_shape (folder : List String) (name : String) :
    fileAt root rules disk.shape folder name = fileAt root rules disk folder name := by
  unfold fileAt
  rw [Disk.probeLink_shape]

theorem countsAsFolder_shape (place : List String) (e : Entry) :
    countsAsFolder root disk.shape place e.shape = countsAsFolder root disk place e := by
  cases e with
  | file bytes => rfl
  | link target => exact Disk.isFolder_shape disk _
  | folder es => rfl

theorem filesIn_shape (folder : List String) (entries : Folder) :
    filesIn root rules disk.shape folder entries.shape = filesIn root rules disk folder entries := by
  induction entries with
  | nil => rfl
  | cons x rest ih =>
    obtain ⟨name, e⟩ := x
    rw [Folder.shape, filesIn_cons, filesIn_cons, countsAsFolder_shape, fileAt_shape, ih]

theorem foldersIn_shape (folder : List String) (entries : Folder) :
    foldersIn root rules disk.shape folder entries.shape = foldersIn root rules disk folder entries := by
  fun_induction foldersIn root rules disk folder entries with
  | case1 folder => rw [Folder.shape, foldersIn]
  | case2 folder name es rest ihbelow ihrest =>
    rw [Folder.shape, Entry.shape, foldersIn, ihrest, ihbelow, filesIn_shape, Disk.list_shape]
    cases disk.list (root.dotted.append (folder ++ [name])) <;> rfl
  | case3 folder name target rest ih => rw [Folder.shape, Entry.shape, foldersIn, ih]
  | case4 folder name bytes rest ih => rw [Folder.shape, Entry.shape, foldersIn, ih]

/-- What a walk comes upon on the shape of a disk is what it comes upon on the disk. -/
theorem arrivalAt_shape (folder : List String) :
    arrivalAt root rules disk.shape folder = arrivalAt root rules disk folder := by
  unfold arrivalAt
  rw [Disk.list_shape]
  cases disk.list (root.dotted.append folder) with
  | error e => rfl
  | ok entries =>
    simp only [Except.map]
    rw [filesIn_shape, foldersIn_shape]

/-! ## Which file a path leads to -/

theorem probeLink_fileAt {folder place : List String} {name : String}
    (h : .source place ∈ fileAt root rules disk folder name) : disk.probeLink (root.append place) = .ok false := by
  unfold fileAt at h
  split at h
  · cases h
  · split at h
    · simp at h
    · cases h
    · rename_i hlink
      split at h
      · simp at h
      · rw [List.mem_singleton, Encounter.source.injEq] at h
        rw [h]
        exact hlink

theorem probeLink_filesIn {folder place : List String} {entries : Folder}
    (h : .source place ∈ filesIn root rules disk folder entries) :
    disk.probeLink (root.append place) = .ok false := by
  obtain ⟨e, _, he⟩ := List.mem_flatMap.mp h
  exact probeLink_fileAt root rules disk he

theorem probeLink_foldersIn {folder place : List String} {entries : Folder}
    (h : .source place ∈ foldersIn root rules disk folder entries) :
    disk.probeLink (root.append place) = .ok false := by
  fun_induction foldersIn root rules disk folder entries with
  | case1 folder => cases h
  | case2 folder name es rest ihbelow ihrest =>
    rcases List.mem_append.mp h with h | h
    · split at h
      · cases h
      · split at h
        · simp at h
        · rcases List.mem_append.mp h with h | h
          · exact probeLink_filesIn root rules disk h
          · exact ihbelow h
    · exact ihrest h
  | case3 folder name target rest ih => exact ih h
  | case4 folder name bytes rest ih => exact ih h

/-- No link stands where a walk visits a file. -/
theorem probeLink_arrivalAt {place : List String} (h : place ∈ sources (arrivalAt root rules disk [])) :
    disk.probeLink (root.append place) = .ok false := by
  have hmem := mem_of_mem_sources h
  unfold arrivalAt at hmem
  split at hmem
  · simp at hmem
  · rcases List.mem_append.mp hmem with hmem | hmem
    · exact probeLink_filesIn root rules disk hmem
    · exact probeLink_foldersIn root rules disk hmem

/-- No two of the files that a walk visits lead to one place. -/
theorem leadsTo_unique (hd : disk.root.WellFormed) {place other there : List String}
    (h : place ∈ sources (arrivalAt root rules disk [])) (h' : other ∈ sources (arrivalAt root rules disk []))
    (hplace : disk.placeOf? (root.append place) = some there)
    (hother : disk.placeOf? (root.append other) = some there) : place = other := by
  cases hlist : disk.list (root.dotted.append []) with
  | error e =>
    rw [arrivalAt, hlist] at h
    cases h
  | ok tree =>
    have hreach : disk.reach root = .ok (.folder tree) :=
      Walk.reach_of_list disk (by rw [← Disk.list_dotted, hlist])
    have htree := Disk.list_wellFormed hd hlist
    obtain ⟨here, hbelow⟩ := Disk.placeOf?_below hreach
    have hspelt : ∀ p ∈ sources (arrivalAt root rules disk []), disk.placeOf? (root.append p) = some there →
        there = here ++ p := by
      intro p hp hthere
      have hlisted := (sources_arrivalAt root rules disk hlist).subset hp
      obtain ⟨hne, hnames⟩ := (apart_placesFrom isLoose htree).all p hlisted
      obtain ⟨_, rfl, _, e, _, he, _⟩ := (mem_placesFrom htree).mp hlisted
      exact hbelow hne hnames he (probeLink_arrivalAt root rules disk hp) hthere
    exact List.append_cancel_left ((hspelt place h hplace).symm.trans (hspelt other h' hother))

end Course

/-- Whether an answer is a record of the file at a place: the path of the record leads there. -/
def Answer.isOf (disk : Disk) (place : List String) : Answer → Bool
  | .item (.record r) =>
    match r.path with
    | .text path => disk.placeOf? (Path.ofString path) == some place
    | _ => false
  | _ => false

/-! ## Runs that are the same but for one stretch -/

/-- That two runs are the same but for one stretch of answers of a kind, where each has its own. -/
def SameBut (own : Answer → Bool) (run run' : List Answer) : Prop :=
  ∃ before block block' after, run = before ++ block ++ after ∧ run' = before ++ block' ++ after ∧
    (∀ a ∈ before ++ after, own a = false) ∧ ∀ a ∈ block ++ block', own a = true

namespace SameBut

variable {own : Answer → Bool} {run run' : List Answer}

theorem refl (h : ∀ a ∈ run, own a = false) : SameBut own run run :=
  ⟨run, [], [], [], by simp, by simp, by simpa using h, by simp⟩

theorem append_left (h : SameBut own run run') {first : List Answer} (hfirst : ∀ a ∈ first, own a = false) :
    SameBut own (first ++ run) (first ++ run') := by
  obtain ⟨before, block, block', after, rfl, rfl, hother, hown⟩ := h
  refine ⟨first ++ before, block, block', after, by simp, by simp, ?_, hown⟩
  intro a ha
  rw [List.append_assoc] at ha
  rcases List.mem_append.mp ha with ha | ha
  · exact hfirst a ha
  · exact hother a ha

/-- But for the stretch, the runs are the same. -/
theorem filter_eq (h : SameBut own run run') :
    run.filter (fun a => !own a) = run'.filter (fun a => !own a) := by
  obtain ⟨before, block, block', after, rfl, rfl, _, hown⟩ := h
  have hnone : ∀ l : List Answer, (∀ a ∈ l, own a = true) → l.filter (fun a => !own a) = [] := by
    intro l hl
    rw [List.filter_eq_nil_iff]
    intro a ha
    simp [hl a ha]
  simp only [List.filter_append, hnone block fun a ha => hown a (List.mem_append_left _ ha),
    hnone block' fun a ha => hown a (List.mem_append_right _ ha)]

end SameBut

namespace Inspector

variable (ins : Inspector)

/-! ## Reports of two disks -/

section Reports

variable {disk : Disk} {place : List String}

/-- The records of a file are of the file that its path leads to. -/
theorem isOf_recordsOf {path : Path} (hpath : Path.ofString path.text = path) (text : String) :
    ∀ a ∈ (ins.recordsOf path text).map (fun r => Answer.item (.record r)),
      a.isOf disk place = (disk.placeOf? path == some place) := by
  intro a ha
  obtain ⟨r, hr, rfl⟩ := List.mem_map.mp ha
  have hrecord : r.path = .text path.text := ((ins.parse text).record_of_mem_report hr).1
  simp only [Answer.isOf, hrecord, hpath]

/-- In the report of files elsewhere there is no record of the file at a place, whatever disk it is made
on. -/
theorem isOf_eagerReport (other : Disk) (failure : Option Failure) {files : List Path}
    (hpaths : ∀ path ∈ files, Path.ofString path.text = path)
    (hfiles : ∀ path ∈ files, disk.placeOf? path ≠ some place) :
    ∀ a ∈ ins.eagerReport other failure files, a.isOf disk place = false := by
  induction files with
  | nil =>
    intro a ha
    obtain ⟨f, _, rfl⟩ := List.mem_map.mp ha
    rfl
  | cons path rest ih =>
    have hrest := ih (fun p hp => hpaths p (List.mem_cons_of_mem path hp))
      fun p hp => hfiles p (List.mem_cons_of_mem path hp)
    intro a ha
    rw [eagerReport] at ha
    split at ha
    · rw [List.mem_singleton.mp ha]
      rfl
    · rename_i text _
      rcases List.mem_append.mp ha with ha | ha
      · rw [ins.isOf_recordsOf (hpaths path List.mem_cons_self) text a ha]
        simpa using hfiles path List.mem_cons_self
      · exact hrest a ha

variable {bytes bytes' : List UInt8} {disk' : Disk} (h : Disk.DifferIn place bytes bytes' disk disk')
include h

theorem readText_elsewhere {path : Path} (hpath : disk.placeOf? path ≠ some place) :
    disk'.readText path path.text = disk.readText path path.text := by
  unfold Disk.readText
  rw [h.read_elsewhere hpath]

theorem eagerReport_elsewhere (failure : Option Failure) {files : List Path}
    (hfiles : ∀ path ∈ files, disk.placeOf? path ≠ some place) :
    ins.eagerReport disk' failure files = ins.eagerReport disk failure files := by
  induction files with
  | nil => rfl
  | cons path rest ih =>
    rw [eagerReport, eagerReport, readText_elsewhere h (hfiles path List.mem_cons_self),
      ih fun p hp => hfiles p (List.mem_cons_of_mem path hp)]

/-- The reports of files of which at most one is the file with other bytes. -/
theorem sameBut_eagerReport (hdecode : ∃ text, Disk.decodeText bytes = .ok text)
    (hdecode' : ∃ text, Disk.decodeText bytes' = .ok text) (failure : Option Failure) {files : List Path}
    (hpaths : ∀ path ∈ files, Path.ofString path.text = path)
    (hone : files.Pairwise fun p q => ¬(disk.placeOf? p = some place ∧ disk.placeOf? q = some place)) :
    SameBut (Answer.isOf disk place) (ins.eagerReport disk failure files)
      (ins.eagerReport disk' failure files) := by
  induction files with
  | nil => exact SameBut.refl (ins.isOf_eagerReport disk failure (by simp) (by simp))
  | cons path rest ih =>
    obtain ⟨hfirst, hlater⟩ := List.pairwise_cons.mp hone
    have hpath := hpaths path List.mem_cons_self
    have hrest : ∀ p ∈ rest, Path.ofString p.text = p := fun p hp => hpaths p (List.mem_cons_of_mem path hp)
    by_cases hown : disk.placeOf? path = some place
    · -- the file itself: its records are the stretch, and it does not come again
      have helsewhere : ∀ p ∈ rest, disk.placeOf? p ≠ some place := fun p hp hp' => hfirst p hp ⟨hown, hp'⟩
      obtain ⟨hread, hread'⟩ := h.read_there hown
      obtain ⟨text, htext⟩ := hdecode
      obtain ⟨text', htext'⟩ := hdecode'
      have hrecords : ins.eagerReport disk failure (path :: rest) =
          (ins.recordsOf path text).map (fun r => .item (.record r)) ++ ins.eagerReport disk failure rest := by
        simp only [eagerReport, Disk.readText, hread, htext]
      have hrecords' : ins.eagerReport disk' failure (path :: rest) =
          (ins.recordsOf path text').map (fun r => .item (.record r)) ++ ins.eagerReport disk failure rest := by
        simp only [eagerReport, Disk.readText, hread', htext']
        rw [ins.eagerReport_elsewhere h failure helsewhere]
      refine ⟨[], _, _, _, hrecords, hrecords', ins.isOf_eagerReport disk failure hrest helsewhere, ?_⟩
      intro a ha
      rcases List.mem_append.mp ha with ha | ha
      · rw [ins.isOf_recordsOf hpath text a ha, hown, beq_self_eq_true]
      · rw [ins.isOf_recordsOf hpath text' a ha, hown, beq_self_eq_true]
    · have hsame := readText_elsewhere h hown
      rw [eagerReport, eagerReport, hsame]
      cases disk.readText path path.text with
      | error e =>
        refine SameBut.refl ?_
        intro a ha
        rw [List.mem_singleton.mp ha]
        rfl
      | ok text =>
        refine (ih hrest hlater).append_left ?_
        intro a ha
        rw [ins.isOf_recordsOf hpath text a ha]
        simpa using hown

end Reports

/-! ## Scans of two disks -/

theorem sourceFiles_shape (disk : Disk) (root : String) :
    ins.sourceFiles disk.shape root = ins.sourceFiles disk root := by
  rw [sourceFiles_of_encounters, sourceFiles_of_encounters, arrivalAt_shape]

theorem rootFailure?_shape (disk : Disk) (root : String) : rootFailure? disk.shape root = rootFailure? disk root := by
  unfold rootFailure?
  simp only [Disk.probe_shape]
  cases disk.probe (Path.ofString root) with
  | error e => rfl
  | ok found =>
    cases found with
    | none => rfl
    | some e => cases e <;> rfl

/-- **The bytes of a file change its own records only.** If two disks differ in the bytes of one file, and
both versions decode, then the answers of the scans of any directory on the two disks are the same but for
one stretch: the records whose path leads to the file. -/
theorem rewritten_file_changes_own_records {disk disk' : Disk} (hd : disk.root.WellFormed) {place : List String}
    {bytes bytes' : List UInt8} (h : Disk.DifferIn place bytes bytes' disk disk')
    (hdecode : ∃ text, Disk.decodeText bytes = .ok text) (hdecode' : ∃ text, Disk.decodeText bytes' = .ok text)
    (root : String) :
    let run := (ins.drain disk (.directory root false)).answers
    let run' := (ins.drain disk' (.directory root false)).answers
    run.filter (fun a => !a.isOf disk place) = run'.filter (fun a => !a.isOf disk place) ∧
      SameBut (Answer.isOf disk place) run run' := by
  intro run run'
  suffices hsame : SameBut (Answer.isOf disk place) run run' from ⟨hsame.filter_eq, hsame⟩
  have hfiles : ins.sourceFiles disk' root = ins.sourceFiles disk root := by
    rw [← ins.sourceFiles_shape disk', h.shape_eq, sourceFiles_shape]
  have hfolder : disk'.isFolder (Path.ofString root) = disk.isFolder (Path.ofString root) := by
    rw [← Disk.isFolder_shape disk', h.shape_eq, Disk.isFolder_shape]
  by_cases hroot : disk.isFolder (Path.ofString root) = true
  · have hrun : run = _ := ins.answers_drain disk hroot
    have hrun' : run' = _ := ins.answers_drain disk' (hfolder.trans hroot)
    rw [hrun, hrun', hfiles]
    have hapart := apart_arrivalAt (Path.ofString root) ins.rules disk hd
    refine ins.sameBut_eagerReport h hdecode hdecode' _ ?_ ?_
    · intro path hp
      rw [sourceFiles_eq ins disk hd] at hp
      obtain ⟨rel, hrel, rfl⟩ := List.mem_map.mp hp
      obtain ⟨hne, hnames⟩ := hapart.all rel hrel
      exact Path.ofString_text_append root hne hnames
    · rw [sourceFiles_eq ins disk hd, List.pairwise_map]
      refine hapart.nodup.imp_of_mem ?_
      intro rel rel' hrel hrel' hne hboth
      exact hne (leadsTo_unique _ _ disk hd hrel hrel' hboth.1 hboth.2)
  · -- there is no directory, on either disk
    have hfailure : rootFailure? disk' root = rootFailure? disk root := by
      rw [← rootFailure?_shape disk', h.shape_eq, rootFailure?_shape]
    obtain ⟨f, hf⟩ := rootFailure?_of_not_isFolder disk hroot
    have hrun : run = [.failed f] := by simp only [run, drain, hf, Drained.answers]; rfl
    have hrun' : run' = [.failed f] := by simp only [run', drain, hfailure, hf, Drained.answers]; rfl
    rw [hrun, hrun']
    refine SameBut.refl ?_
    intro a ha
    rw [List.mem_singleton.mp ha]
    rfl

/-- A disk with an empty file and one with an import in it. -/
def draftDisk : Disk where
  base := "/work"
  root := [("a.dart", .file []), ("b.dart", .file [0x78])]

/-- The disk on which the first file has an import in it as well. -/
def revisedDisk : Disk where
  base := "/work"
  root := [("a.dart", .file [0x78]), ("b.dart", .file [0x78])]

theorem rewritten_file_changes_own_records_draft :
    (draftDisk.root.WellFormed ∧ Disk.DifferIn ["a.dart"] [] [0x78] draftDisk revisedDisk ∧
        (∃ text, Disk.decodeText [] = .ok text) ∧ ∃ text, Disk.decodeText [0x78] = .ok text) ∧
      SameBut (Answer.isOf draftDisk ["a.dart"])
        (sampleInspector.drain draftDisk (.directory "." false)).answers
        (sampleInspector.drain revisedDisk (.directory "." false)).answers := by
  have hd : draftDisk.root.WellFormed := by
    simp [draftDisk, Disk.Folder.WellFormed, Disk.Entry.WellFormed, Disk.IsName]
  have helsewhere : ∀ other, other ≠ ["a.dart"] → ∀ content, draftDisk.root.at? other = some (.file content) →
      revisedDisk.root.at? other = some (.file content) := by
    intro other hne content hat
    rcases other with _ | ⟨name, _ | ⟨next, rest⟩⟩
    · cases hat
    · have hname : "a.dart" ≠ name := fun heq => hne (by rw [heq])
      simpa [draftDisk, revisedDisk, Folder.at?, Folder.find?, hname] using hat
    · rw [Disk.at?_cons] at hat
      by_cases ha : "a.dart" = name
      · simp [draftDisk, Folder.find?, ha] at hat
      · by_cases hb : "b.dart" = name
        · simp [draftDisk, Folder.find?, ha, hb] at hat
        · simp [draftDisk, Folder.find?, ha, hb] at hat
  have hdiffer : Disk.DifferIn ["a.dart"] [] [0x78] draftDisk revisedDisk := ⟨rfl, rfl, rfl, rfl, helsewhere⟩
  have hempty : ∃ text, Disk.decodeText [] = .ok text := ⟨"", by decide +kernel⟩
  have hletter : ∃ text, Disk.decodeText [0x78] = .ok text := ⟨"x", by decide +kernel⟩
  exact ⟨⟨hd, hdiffer, hempty, hletter⟩,
    (sampleInspector.rewritten_file_changes_own_records hd hdiffer hempty hletter ".").2⟩

end Inspector

end DartSurvey.Scan
