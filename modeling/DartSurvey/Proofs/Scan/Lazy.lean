import DartSurvey.Proofs.Scan.Script
import Mathlib.Data.List.Basic
import Mathlib.Order.Bounds.Basic

/-!
# Lazy scans of a directory

The records of a directory can be had in two ways: all at once, by listing its source files and
reading one after the other (`Inspector.eagerReport`), or one pull at a time.

- The encounters of a walk give its source files and what breaks it off (`sourceFiles_eq`), and
  those are what the scan that asks for files only yields (`drain_files`).
- The answers of the pulls are the eager report (`answers_turns`), and what happens during the first
  `k` of them is what happens while the first `needed k` files are read (`events_turns`); `needed k`
  is the least number of files that suffices for `k` answers (`needed_le_iff`).
- `pulls_eq_eagerReport` puts this together for every number of pulls on a fresh scan.
-/

namespace DartSurvey.Scan

open Disk (Path)
open Report (Record)

-- what is read stays closed while the equations of the functions that read are made
attribute [local irreducible] Disk.readText Disk.probe

/-- The path an event opens. -/
def Event.opened? : Event → Option String
  | .opening path => some path
  | _ => none

/-- The text an event has parsed. -/
def Event.parsed? : Event → Option String
  | .parsed source => some source
  | _ => none

/-- The files among encounters, up to the first that breaks a walk off. -/
def sources : List Encounter → List (List String)
  | [] => []
  | .source place :: xs => place :: sources xs
  | .excluded _ :: xs => sources xs
  | .hidden _ _ :: _ => []
  | .barred _ _ :: _ => []

namespace Inspector

variable (ins : Inspector) (disk : Disk)

/-! ## The source files of a directory -/

/-- The source files of a directory in the order of the walk, and what breaks the walk off, if
anything does. -/
structure SourceFiles where
  files : List Path
  failure : Option Failure

/-- The walk that lists source files. -/
def listing (root : Path) : Walk (List Path) Failure where
  root
  rules := ins.rules
  visit files path := .goOn (files ++ [path])
  excluded files _ := files
  fail e path := .unreadable (.access e path)

/-- The source files of a directory. -/
def sourceFiles (root : String) : SourceFiles :=
  match (ins.listing (Path.ofString root)).arrive disk [] [] with
  | .exhausted files => ⟨files, none⟩
  | .stopped files f _ => ⟨files, some f⟩

/-- What breaks off a walk with these encounters, if anything does. -/
def obstacle? (root : Path) : List Encounter → Option Failure
  | [] => none
  | .source _ :: xs => obstacle? root xs
  | .excluded _ :: xs => obstacle? root xs
  | .hidden e place :: _ => some (.unreadable (.access e (root.append place).text))
  | .barred e place :: _ => some (.unreadable (.access e ((ins.listing root).listedPath place).text))

theorem feed_listing (root : Path) (xs : List Encounter) (files : List Path) :
    ((ins.listing root).feed files xs).1 = files ++ (sources xs).map root.append ∧
      ((ins.listing root).feed files xs).2.map Prod.fst = ins.obstacle? root xs := by
  induction xs generalizing files with
  | nil => simp [Walk.feed, sources, obstacle?]
  | cons x xs ih =>
    cases x with
    | source place =>
      obtain ⟨hfiles, hfailure⟩ := ih (files ++ [root.append place])
      exact ⟨hfiles.trans (by simp [sources]), hfailure⟩
    | excluded place => exact ih files
    | hidden e place => exact ⟨(List.append_nil files).symm, rfl⟩
    | barred e place => exact ⟨(List.append_nil files).symm, rfl⟩

/-- The source files of a directory are those among the encounters of its walk. -/
theorem sourceFiles_eq (hd : disk.root.WellFormed) (root : String) :
    ins.sourceFiles disk root =
      ⟨(sources (arrivalAt (Path.ofString root) ins.rules disk [])).map (Path.ofString root).append,
        ins.obstacle? (Path.ofString root) (arrivalAt (Path.ofString root) ins.rules disk [])⟩ := by
  let w := ins.listing (Path.ofString root)
  have houtcome : ins.sourceFiles disk root =
      ⟨(w.outcome disk (w.arrive disk [] [])).1, (w.outcome disk (w.arrive disk [] [])).2.map Prod.fst⟩ := by
    unfold sourceFiles
    cases w.arrive disk [] [] <;> rfl
  obtain ⟨hfiles, hfailure⟩ :=
    ins.feed_listing (Path.ofString root) (arrivalAt (Path.ofString root) ins.rules disk []) []
  rw [List.nil_append] at hfiles
  rw [houtcome, w.arrive_eq_feed disk hd]
  exact congrArg₂ SourceFiles.mk hfiles hfailure

theorem feed_collecting (root : Path) (xs : List Encounter) (items : List Item) (events : List Event) :
    ((ins.collecting disk true root).feed (items, events) xs).1.1
        = items ++ (sources xs).map (fun place => Item.path (root.append place).text) ∧
      ((ins.collecting disk true root).feed (items, events) xs).2.map Prod.fst
        = ins.obstacle? root xs := by
  induction xs generalizing items events with
  | nil => simp [Walk.feed, sources, obstacle?]
  | cons x xs ih =>
    cases x with
    | source place =>
      obtain ⟨hfiles, hfailure⟩ := ih (items ++ [Item.path (root.append place).text]) (events ++ [])
      exact ⟨hfiles.trans (by simp [sources]), hfailure⟩
    | excluded place => exact ih items _
    | hidden e place => exact ⟨(List.append_nil items).symm, rfl⟩
    | barred e place => exact ⟨(List.append_nil items).symm, rfl⟩

theorem rootFailure?_of_isFolder {root : String} (h : disk.isFolder (Path.ofString root) = true) :
    rootFailure? disk root = none := by
  unfold Disk.isFolder at h
  unfold rootFailure? Disk.probe
  split at h
  · rename_i entries hr
    simp [hr]
  · cases h

/-- The scan that asks for files only yields the source files. -/
theorem drain_files (hd : disk.root.WellFormed) {root : String}
    (hroot : disk.isFolder (Path.ofString root) = true) :
    (ins.drain disk (.directory root true)).items
        = (ins.sourceFiles disk root).files.map (fun p => .path p.text) ∧
      (ins.drain disk (.directory root true)).failure = (ins.sourceFiles disk root).failure := by
  let w := ins.collecting disk true (Path.ofString root)
  have houtcome : (ins.drain disk (.directory root true)).items
      = (w.outcome disk (w.arrive disk [] ([], []))).1.1 ∧
      (ins.drain disk (.directory root true)).failure
        = (w.outcome disk (w.arrive disk [] ([], []))).2.map Prod.fst := by
    simp only [drain, rootFailure?_of_isFolder disk hroot]
    cases w.arrive disk [] ([], []) <;> exact ⟨rfl, rfl⟩
  obtain ⟨hfiles, hfailure⟩ :=
    ins.feed_collecting disk (Path.ofString root) (arrivalAt (Path.ofString root) ins.rules disk []) [] []
  rw [List.nil_append] at hfiles
  rw [houtcome.1, houtcome.2, w.arrive_eq_feed disk hd, sourceFiles_eq ins disk hd, List.map_map]
  exact ⟨hfiles, hfailure⟩

/-! ## The eager report -/

/-- The records of the text of a file. -/
def recordsOf (path : Path) (text : String) : List Record :=
  (ins.parse text).report ins.policy (some path.text)

/-- The text of a file, if it can be read and decoded. -/
def textOf? (path : Path) : Option String := (disk.readText path path.text).toOption

/-- The report of files read one after the other: the records of each, up to the first that cannot
be read or decoded, which ends the report with its error; `failure` ends the report of all files. -/
def eagerReport (failure : Option Failure) : List Path → List Answer
  | [] => failure.toList.map .failed
  | path :: rest =>
    match disk.readText path path.text with
    | .error e => [.failed (.unreadable e)]
    | .ok text => (ins.recordsOf path text).map (fun r => .item (.record r)) ++ eagerReport failure rest

/-- The first `j` of the files suffice for `k` answers: they hold that many, or one of them ends the
report, or there are no more files. -/
def Suffices (files : List Path) (k j : Nat) : Prop :=
  k ≤ (ins.eagerReport disk none (files.take j)).length ∨ (∃ path ∈ files.take j, textOf? disk path = none) ∨
    files.length ≤ j

/-- The number of files that are read for `k` answers. -/
def needed : Nat → List Path → Nat
  | 0, _ => 0
  | _ + 1, [] => 0
  | k + 1, path :: rest =>
    match textOf? disk path with
    | none => 1
    | some text => needed (k + 1 - (ins.recordsOf path text).length) rest + 1

/-- The files that are read are no more than suffice, and no fewer. -/
theorem needed_le_iff (files : List Path) (k j : Nat) :
    ins.needed disk k files ≤ j ↔ ins.Suffices disk files k j := by
  induction files generalizing k j with
  | nil =>
    have h : ins.needed disk k [] = 0 := by cases k <;> rfl
    simp [h, Suffices]
  | cons path rest ih =>
    cases k with
    | zero => simp [needed, Suffices]
    | succ k =>
      cases j with
      | zero =>
        simp only [Suffices, List.take_zero, eagerReport, needed]
        cases textOf? disk path <;> simp
      | succ j =>
        simp only [Suffices, List.take_succ_cons, List.mem_cons, List.length_cons, needed, eagerReport]
        cases hread : disk.readText path path.text with
        | error e =>
          have htext : textOf? disk path = none := by simp [textOf?, hread, Except.toOption]
          simp [htext]
        | ok text =>
          have htext : textOf? disk path = some text := by simp [textOf?, hread, Except.toOption]
          simp only [htext, Nat.add_le_add_iff_right, ih, Suffices, List.length_append, List.length_map]
          simp only [exists_eq_or_imp, htext, reduceCtorEq, false_or]
          refine or_congr ?_ Iff.rfl
          omega

/-! ## Turns -/

theorem turns_unreadable {root : Path} {place : List String} {e : Disk.ReadError}
    (h : disk.readText (root.append place) (root.append place).text = .error e) (pending : List Event)
    (xs : List Encounter) :
    ins.turns disk false root pending (.source place :: xs) =
      [⟨.failed (.unreadable e), pending ++ (ins.scanFile disk (root.append place)).2⟩] := by
  simp [turns, Walk.meet, seeking, Walk.pathOf, itemsOf, scanFile, h, Except.map]

theorem turns_readable {root : Path} {place : List String} {text : String}
    (h : disk.readText (root.append place) (root.append place).text = .ok text) (pending : List Event)
    (xs : List Encounter) :
    ins.turns disk false root pending (.source place :: xs) =
      match ins.recordsOf (root.append place) text with
      | [] => ins.turns disk false root (pending ++ (ins.scanFile disk (root.append place)).2) xs
      | r :: rs => deliver (pending ++ (ins.scanFile disk (root.append place)).2)
          (ins.turns disk false root [] xs) ((r :: rs).map .record) := by
  simp only [turns, Walk.meet, seeking, Walk.pathOf, itemsOf, scanFile, scanSource, h, Except.map,
    recordsOf]
  cases (ins.parse text).report ins.policy (some (root.append place).text) <;> rfl

/-- The answers of the turns are the eager report of the source files, with the end behind it if it
needs one. -/
theorem answers_turns (root : Path) (xs : List Encounter) (pending : List Event) :
    ∃ n, (ins.turns disk false root pending xs).map Turn.answer =
      ins.eagerReport disk (ins.obstacle? root xs) ((sources xs).map root.append) ++
        List.replicate n .ended := by
  induction xs generalizing pending with
  | nil => exact ⟨1, rfl⟩
  | cons x xs ih =>
    cases x with
    | excluded place => exact ih _
    | hidden e place => exact ⟨0, rfl⟩
    | barred e place => exact ⟨0, rfl⟩
    | source place =>
      simp only [sources, obstacle?, List.map_cons, eagerReport]
      cases hread : disk.readText (root.append place) (root.append place).text with
      | error e => exact ⟨0, by rw [turns_unreadable ins disk hread]; rfl⟩
      | ok text =>
        rw [turns_readable ins disk hread]
        cases hrecords : ins.recordsOf (root.append place) text with
        | nil => simpa [hrecords] using ih _
        | cons r rs =>
          obtain ⟨n, hn⟩ := ih []
          refine ⟨n, ?_⟩
          simp [deliver, hn, hrecords, Function.comp_def]

/-- What happens during the first pulls: what was pending, and what happens while the needed files
are read. The events that `pick` picks are not those of excluded files, which belong to no file that
is read. -/
theorem events_turns {β : Type} (pick : Event → Option β)
    (hpick : ∀ path, pick (.excluded path) = none) (root : Path)
    (xs : List Encounter) (k : Nat) (pending : List Event) :
    (((ins.turns disk false root pending xs).take (k + 1)).flatMap Turn.events).filterMap pick =
      pending.filterMap pick ++
        (((sources xs).map root.append).take (ins.needed disk (k + 1) ((sources xs).map root.append))).flatMap
          fun path => (ins.scanFile disk path).2.filterMap pick := by
  induction xs generalizing k pending with
  | nil => simp [turns, sources, needed]
  | cons x xs ih =>
    cases x with
    | excluded place =>
      have h := ih k (pending ++ [.excluded (Walk.relative place)])
      rw [List.filterMap_append, List.filterMap_cons_none (hpick _), List.filterMap_nil,
        List.append_nil] at h
      exact h
    | hidden e place => simp [turns, Walk.meet, seeking, sources, needed]
    | barred e place => simp [turns, Walk.meet, seeking, sources, needed]
    | source place =>
      simp only [sources, List.map_cons, needed]
      cases hread : disk.readText (root.append place) (root.append place).text with
      | error e =>
        have htext : textOf? disk (root.append place) = none := by simp [textOf?, hread, Except.toOption]
        rw [turns_unreadable ins disk hread]
        simp [htext]
      | ok text =>
        have htext : textOf? disk (root.append place) = some text := by
          simp [textOf?, hread, Except.toOption]
        rw [turns_readable ins disk hread]
        simp only [htext, List.take_succ_cons, List.flatMap_cons]
        cases hrecords : ins.recordsOf (root.append place) text with
        | nil => simp [ih, List.append_assoc]
        | cons r rs =>
          -- the other records of the file are handed out without anything happening
          have hready : (((rs.map Item.record).map fun i => Turn.mk (.item i) []).take k).flatMap
              Turn.events = [] := by
            simp [← List.map_take, List.flatMap_map]
          have hrest : (((ins.turns disk false root [] xs).take (k - rs.length)).flatMap Turn.events).filterMap pick =
              (((sources xs).map root.append).take (ins.needed disk (k - rs.length) ((sources xs).map root.append))).flatMap
                fun path => (ins.scanFile disk path).2.filterMap pick := by
            cases k - rs.length with
            | zero => simp [needed]
            | succ m => simpa using ih m []
          simp only [List.map_cons, deliver, List.cons_append, List.take_succ_cons, List.flatMap_cons,
            List.take_append, List.flatMap_append, hready, List.nil_append, List.length_map,
            List.filterMap_append, hrest,
            List.length_cons, Nat.add_sub_add_right, List.append_assoc]

/-! ## Pulls -/

theorem take_append_replicate_add {α : Type} (l : List α) (a : α) (n k : Nat) :
    (l ++ List.replicate n a ++ List.replicate k a).take k = (l ++ List.replicate k a).take k := by
  rw [List.append_assoc, List.replicate_append_replicate, List.take_append, List.take_append,
    List.take_replicate, List.take_replicate]
  congr 2
  omega

/-- The answers of the first pulls are the first answers of the script, then the end. -/
theorem map_played {script : List Turn} {report : List Answer} {n : Nat}
    (h : script.map Turn.answer = report ++ List.replicate n .ended) (k : Nat) :
    ((script ++ List.replicate k (Turn.mk .ended [])).take k).map Turn.answer
      = (report ++ List.replicate k Answer.ended).take k := by
  rw [List.map_take, List.map_append, h, List.map_replicate, take_append_replicate_add]

theorem flatMap_played (script : List Turn) (k : Nat) :
    ((script ++ List.replicate k (Turn.mk .ended [])).take k).flatMap Turn.events
      = (script.take k).flatMap Turn.events := by
  rw [List.take_append, List.take_replicate, List.flatMap_append]
  simp

/-- While a file is read, it is opened. -/
theorem scanFile_opened (path : Path) :
    (ins.scanFile disk path).2.filterMap Event.opened? = [path.text] := by
  unfold scanFile
  cases disk.readText path path.text with
  | error e => rfl
  | ok text => simp [scanSource, List.filterMap_cons, List.filterMap_map, Event.opened?]

/-- While a file is read, it is parsed once if it decodes. -/
theorem scanFile_parsed (path : Path) :
    (ins.scanFile disk path).2.filterMap Event.parsed? = (textOf? disk path).toList := by
  unfold scanFile textOf?
  cases disk.readText path path.text with
  | error e => rfl
  | ok text => simp [scanSource, List.filterMap_cons, List.filterMap_map, Event.parsed?, Except.toOption]

/-- **The lazy scan refines the eager report.** Whatever the number `k` of pulls on a fresh scan of
a directory, they give the first `k` answers of the eager report, and have opened the fewest source
files that suffice for those, each parsed once if it decodes. Once the scan has ended, failed or
been closed, pulls report the end and nothing happens. -/
theorem pulls_eq_eagerReport (hd : disk.root.WellFormed) (root : String)
    (hroot : disk.isFolder (Path.ofString root) = true) (k : Nat) :
    let found := ins.sourceFiles disk root
    let run := ins.pulls disk k (.directory root false)
    (ins.drain disk (.directory root true)).items = found.files.map (fun path => .path path.text) ∧
      run.answers =
        (ins.eagerReport disk found.failure found.files ++ List.replicate k Answer.ended).take k ∧
      (∃ j, IsLeast {j | ins.Suffices disk found.files k j} j ∧
        run.events.filterMap Event.opened? = (found.files.take j).map Path.text ∧
        run.events.filterMap Event.parsed? = (found.files.take j).filterMap (textOf? disk)) ∧
      ∀ (later : Suspended) (m : Nat),
        later = run.scan.close ∨ (later = run.scan ∧ ∃ a ∈ run.answers, ∀ i, a ≠ .item i) →
          ins.pulls disk m later = ⟨List.replicate m .ended, [], .finished⟩ := by
  obtain ⟨hanswers, hevents, -⟩ := ins.pulls_script disk hd k (.directory root false)
  let xs := arrivalAt (Path.ofString root) ins.rules disk []
  have hscript : ins.script disk (.directory root false)
      = ins.turns disk false (Path.ofString root) [] xs := by
    simp only [script, rootFailure?_of_isFolder disk hroot, xs]
  have hfiles := (ins.drain_files disk hd hroot).1
  rw [played, hscript] at hanswers hevents
  rw [sourceFiles_eq ins disk hd] at hfiles
  intro found run
  simp only [found, run, sourceFiles_eq ins disk hd]
  -- what is picked from the events of the pulls is picked from those of the needed files
  have hpicked : ∀ pick : Event → Option String, (∀ path, pick (.excluded path) = none) →
      (ins.pulls disk k (.directory root false)).events.filterMap pick =
        (((sources xs).map (Path.ofString root).append).take
            (ins.needed disk k ((sources xs).map (Path.ofString root).append))).flatMap
          fun path => (ins.scanFile disk path).2.filterMap pick := by
    intro pick hpick
    rw [hevents, flatMap_played]
    cases k with
    | zero => simp [needed]
    | succ k => simpa using ins.events_turns disk pick hpick (Path.ofString root) xs k []
  refine ⟨hfiles, ?_, ⟨ins.needed disk k ((sources xs).map (Path.ofString root).append), ?_, ?_, ?_⟩, ?_⟩
  · obtain ⟨n, hn⟩ := ins.answers_turns disk (Path.ofString root) xs []
    rw [hanswers, map_played hn]
  · exact ⟨(ins.needed_le_iff disk _ k _).mp (Nat.le_refl _),
      fun j hj => (ins.needed_le_iff disk _ k j).mpr hj⟩
  · rw [hpicked Event.opened? (fun _ => rfl)]
    simp only [scanFile_opened]
    exact List.flatMap_pure_eq_map Path.text _
  · rw [hpicked Event.parsed? (fun _ => rfl)]
    simp only [scanFile_parsed]
    exact (List.filterMap_eq_flatMap_toList _ _).symm
  · rintro later m (rfl | ⟨rfl, a, ha, hi⟩)
    · exact ins.pulls_finished disk m
    · rw [ins.pulls_scan_finished disk hd ha hi]
      exact ins.pulls_finished disk m

/-- A directory with a file to exclude, a file without records, one with a record, and one that does
not decode. -/
def sampleFolder : Disk.Folder :=
  [("a.dart", .file []), ("b.dart", .file [0x78]), ("c.dart", .file [0xff]),
    ("gen", .folder [("d.dart", .file [0x78])])]

/-- The disk with that directory. -/
def sampleDisk : Disk where
  base := "/work"
  root := [("lib", .folder sampleFolder)]

/-- An inspector whose parser finds one import in the text `x` and nothing in any other. -/
def sampleInspector : Inspector where
  policy := .standard
  rules := Exclude.rulesOf ["gen/"]
  parse text := if text == "x" then { directives := [.importing (some "u") none false] } else {}

theorem pulls_eq_eagerReport_sample :
    (sampleDisk.root.WellFormed ∧ sampleDisk.isFolder (Path.ofString "lib") = true) ∧
      (sampleInspector.pulls sampleDisk 2 (.directory "lib" false)).answers =
        (sampleInspector.eagerReport sampleDisk (sampleInspector.sourceFiles sampleDisk "lib").failure
          (sampleInspector.sourceFiles sampleDisk "lib").files ++ List.replicate 2 Answer.ended).take 2 := by
  have hd : sampleDisk.root.WellFormed := by
    simp [sampleDisk, sampleFolder, Disk.Folder.WellFormed, Disk.Entry.WellFormed, Disk.IsName]
  have hroot : sampleDisk.isFolder (Path.ofString "lib") = true := by
    have hwalk : Disk.walkTo sampleDisk.root true Disk.maxLinks [] ["lib"]
        = .ok (["lib"], .folder sampleFolder) := by
      rw [Disk.walkTo_folder _ (by decide) (by decide) (by decide) rfl]
      exact Disk.walkTo_nil rfl
    have hpath : Path.ofString "lib" = ⟨"", ["lib"]⟩ := by decide
    have htext : Disk.textError? (Disk.Path.mk "" ["lib"]).text = none := by decide
    simp only [Disk.isFolder, Disk.reach, Disk.find, hpath, htext, Disk.inside?, BEq.rfl, ↓reduceIte,
      hwalk]
    rfl
  exact ⟨⟨hd, hroot⟩, (pulls_eq_eagerReport sampleInspector sampleDisk hd "lib" hroot 2).2.1⟩

end Inspector

end DartSurvey.Scan
