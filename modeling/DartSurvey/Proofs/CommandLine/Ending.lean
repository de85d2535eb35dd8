import DartSurvey.Proofs.CommandLine.Plan
import DartSurvey.Proofs.Disk.Direct
import DartSurvey.Proofs.Disk.PathText
import DartSurvey.Proofs.Scan.Coverage
import DartSurvey.Proofs.Scan.Drain
import DartSurvey.Proofs.Scan.Pruning

/-!
# How runs end

- A run whose plan is refused prints nothing and opens no source (`run_refused`).
- A run with a plan prints the banner, and the records of the source files up to the first that cannot be read
  or decoded (`scan_readable`, `scan_unreadable`).
- `run_endings` puts this together: which exit code a run has, and what it has printed by then.
- `broken_off_runs`: what the operating system refuses to tell can break off a walk whose files all decode, and a
  run whose directory is none.

Two things that can end a real run are idealised away: a disk has no permissions, so nothing on it is closed to a
run, and a run has no recursion limit, so a tree may be of any depth.
-/

namespace DartSurvey.CommandLine

open Disk (Path)
open Scan (Inspector)
open Scan.Inspector (detour detourDisk detourText sampleDisk sampleFolder sampleInspector textOf?)

/-- That a run has printed nothing and opened no source. -/
def Outcome.Silent (o : Outcome) : Prop := o.output = "" ∧ o.events.filterMap Scan.Event.opened? = []

/-- That the log a request asks for can be opened, if it asks for one; `d'` is the disk with it. -/
def Request.OpensLog (r : Request) (d d' : Disk) : Prop :=
  match given r.logFile with
  | none => d' = d
  | some path => ∃ place, d.openForAppend (Path.ofString (untilNull path)) = .ok ⟨place, d'⟩

/-! ## Scans -/

namespace Plan

variable (p : Plan) (d : Disk) (parse : Parser)

/-- The inspector of a plan. -/
def inspector : Inspector := ⟨p.policy, Exclude.rulesOf p.excludePaths, parse⟩

/-- The source files of a plan, and what breaks the walk through them off. -/
def sources : Inspector.SourceFiles := (p.inspector parse).sourceFiles d p.directory

/-- What has been printed when these files have been read: the banner, and their records. -/
def printed (files : List Path) : String :=
  Report.banner p.format p.directory p.policy
    ++ Report.render p.format (files.flatMap ((p.inspector parse).fileRecords d))

/-- What a scan prints, and how it ends, by the items and the failure of its drained scan. -/
theorem scan_eq {records : List Report.Record} {failure : Option Scan.Failure}
    (hitems : ((p.inspector parse).drain d (.directory p.directory false)).items = records.map .record)
    (hfailure : ((p.inspector parse).drain d (.directory p.directory false)).failure = failure) :
    (p.scan d parse).output = Report.banner p.format p.directory p.policy ++ Report.render p.format records ∧
      (p.scan d parse).ending = failure.elim (.finished records.length) .sourcesUnreadable := by
  unfold inspector at hitems hfailure
  simp only [scan, hitems, hfailure, recordsOf_map_record, Report.text_write, Report.count_write]
  cases failure with
  | none => exact ⟨rfl, rfl⟩
  | some f => exact ⟨rfl, rfl⟩

variable {p d parse} (hroot : d.isFolder (Path.ofString p.directory) = true)

include hroot

/-- Sources that can all be read and decoded are printed, and the run ends as the walk does. -/
theorem scan_readable (h : ∀ path ∈ (p.sources d parse).files, (textOf? d path).isSome) :
    (p.scan d parse).output = p.printed d parse (p.sources d parse).files ∧
      (p.scan d parse).ending = (p.sources d parse).failure.elim
        (.finished ((p.sources d parse).files.flatMap ((p.inspector parse).fileRecords d)).length)
        .sourcesUnreadable := by
  obtain ⟨hitems, hfailure⟩ := (p.inspector parse).drain_readable hroot h
  exact p.scan_eq d parse hitems hfailure

/-- Of sources up to one that cannot be read or decoded, those before it are printed. -/
theorem scan_unreadable {before after : List Path} {path : Path}
    (hfiles : (p.sources d parse).files = before ++ path :: after) (hbefore : ∀ p ∈ before, (textOf? d p).isSome)
    (hpath : textOf? d path = none) :
    (p.scan d parse).output = p.printed d parse before ∧ (p.scan d parse).ending.exitCode? = some 74 := by
  obtain ⟨hitems, e, hfailure⟩ := (p.inspector parse).drain_unreadable hroot hfiles hbefore hpath
  obtain ⟨houtput, hending⟩ := p.scan_eq d parse hitems hfailure
  exact ⟨houtput, by rw [hending]; rfl⟩

end Plan

/-! ## Runs -/

section Run

variable {d d' : Disk} (parser : Except Unavailable Parser) {args : List String} {r : Request} {directory : String}
  (hargs : Request.parse args = .ok (some r)) (hdirectory : r.directory = some directory) (hlog : r.OpensLog d d')

include hargs hdirectory hlog

/-- The outcome of a command line is that of its request on the disk with the log. -/
theorem run_eq : ∃ place, run d parser args = .ofTranscript d' r.verbose place (r.run d' parser directory) := by
  simp only [run, hargs, hdirectory, Request.carryOut]
  unfold Request.OpensLog at hlog
  cases hgiven : given r.logFile with
  | none =>
    rw [hgiven] at hlog
    subst hlog
    exact ⟨none, rfl⟩
  | some path =>
    rw [hgiven] at hlog
    obtain ⟨place, hopen⟩ := hlog
    exact ⟨place, by simp only [hopen]⟩

/-- A run whose plan is refused ends so, and silently. -/
theorem run_refused {e : Ending} (h : r.plan d' directory = .error e) :
    (run d parser args).ending = e ∧ (run d parser args).Silent := by
  obtain ⟨place, hrun⟩ := run_eq parser hargs hdirectory hlog
  rw [hrun, Request.run, h]
  exact ⟨rfl, rfl, rfl⟩

/-- A run with a plan and a parser is the scan of the plan. -/
theorem run_planned {p : Plan} {parse : Parser} (h : r.plan d' directory = .ok p) :
    (run d (.ok parse) args).ending = (p.scan d' parse).ending ∧
      (run d (.ok parse) args).output = (p.scan d' parse).output := by
  obtain ⟨place, hrun⟩ := run_eq (.ok parse) hargs hdirectory hlog
  rw [hrun, Request.run, h]
  exact ⟨rfl, rfl⟩

end Run

/-- A file of the sample directory is found where it stands. -/
theorem find_sample {name : String} {bytes : List UInt8} (hname : Disk.isPlainName name = true)
    (hfile : Disk.Folder.find? name sampleFolder = some (.file bytes))
    (htext : Disk.textError? (Disk.Path.mk "" ["lib", name]).text = none) (follow : Bool) :
    sampleDisk.find follow ⟨"", ["lib", name]⟩ = .ok (.file bytes) :=
  Disk.find_file ["lib"] name (by decide) rfl hname hfile htext

/-- The source files of the sample directory, if no rule excludes one. -/
theorem sourceFiles_sample {ins : Inspector} (hrules : ins.rules = []) :
    (ins.sourceFiles sampleDisk "lib").files =
      [⟨"", ["lib", "a.dart"]⟩, ⟨"", ["lib", "b.dart"]⟩] ++ ⟨"", ["lib", "c.dart"]⟩ ::
        [⟨"", ["lib", "gen", "d.dart"]⟩] := by
  have hpath : Path.ofString "lib" = ⟨"", ["lib"]⟩ := by decide
  have hd : sampleDisk.root.WellFormed := by
    simp [sampleDisk, sampleFolder, Disk.Folder.WellFormed, Disk.Entry.WellFormed, Disk.IsName]
  have hroot : sampleDisk.reach (Path.ofString "lib") = .ok (.folder sampleFolder) := by
    rw [hpath]
    exact Disk.find_folder ["lib"] (by decide) rfl (by decide)
  have hs : sampleFolder.Storable := by
    simp only [sampleFolder, Disk.Folder.Storable, Disk.Entry.Storable, Disk.CanStore]
    decide
  have hshort : ∀ place ∈ Scan.placesFrom Scan.isExamined [] sampleFolder,
      ((Path.ofString "lib").text ++ "/" ++ Scan.Walk.relative place).utf8ByteSize < Disk.pathLimit := by
    simp only [Scan.placesFrom, sampleFolder, Scan.placesBelow]
    decide
  rw [ins.sourceFiles_of_short hd hrules hroot hs hshort, hpath]
  simp only [Scan.placesFrom, sampleFolder, Scan.placesBelow]
  decide

/-- Ways into a folder and back do not change a canonical place. -/
theorem canonical_detour (n : Nat) (path : List String) :
    detourDisk.canonical (detour n path).parts = detourDisk.canonical path := by
  induction n with
  | zero => rfl
  | succ n ih =>
    have hparts : (detour (n + 1) path).parts.map Disk.Step.name
        = .name "x" :: .name ".." :: (detour n path).parts.map .name := by
      simp [detour, List.replicate_succ]
    have hx : ∀ target, detourDisk.root.at? ["x"].reverse ≠ some (.link target) := fun target h => by cases h
    rw [← ih, Disk.canonical, hparts, Disk.canonicalFrom_plain (by decide) hx, Disk.canonicalFrom_up]
    rfl

/-- There are no settings at the end of ways into a folder and back. -/
theorem load_detour {n : Nat} (hn : 5 * n + 12 < 4096) :
    SettingsFile.load detourDisk (Path.ofString (detourText n ++ "x")) = .ok ({}, ⟨["x"], Settings.fileName⟩) := by
  have hhome : SettingsFile.expandHome (detour n ["x"]) = .ok (detour n ["x"]) := by
    cases n with
    | zero => rfl
    | succ n => simp [SettingsFile.expandHome, detour, List.replicate_succ]
  have hnull : '\x00' ∉ (detour n ["x", Settings.fileName]).text.toList := by
    intro hmem
    have htext : Disk.textError? (detour n ["x", Settings.fileName]).text = _ :=
      Inspector.textError?_detour n (by simp) (by decide)
    rw [Disk.textError?, if_pos (by simpa using hmem)] at htext
    split at htext <;> cases htext
  have hmissing : detourDisk.find true ⟨"", ["x"] ++ [Settings.fileName]⟩ = .error .missing :=
    Disk.find_missing ["x"] Settings.fileName (by decide) rfl (by decide) rfl (by decide)
  have hcanonical : detourDisk.canonical (["x"] ++ [Settings.fileName]) = ["x"] ++ [Settings.fileName] :=
    Disk.canonical_last (by decide) rfl (by decide) fun target h => by cases h
  rw [Inspector.ofString_detour]
  refine SettingsFile.load_of_missing
    (SettingsFile.locate_folder hhome (Inspector.find_detour_root hn) ?_ ?_ ?_) hmissing
  · rwa [Inspector.detour_append]
  · rw [Inspector.detour_append]
    exact (canonical_detour n ["x", Settings.fileName]).trans hcanonical
  · rw [Disk.reach, hmissing]
    simp

theorem eq_of_mem_rule {n : Nat} {c : Char} (h : c ∈ (Report.rule 'a' n).toList) : c = 'a' := by
  rw [Report.rule, String.toList_ofList] at h
  exact List.eq_of_mem_replicate h

/-- Enough letters are a name. -/
theorem isName_rule {n : Nat} (hn : 2 < n) : Disk.IsName (Report.rule 'a' n) := by
  have hlength : (Report.rule 'a' n).toList.length = n := by simp [Report.rule]
  refine ⟨?_, ?_, ?_, fun hslash => absurd (eq_of_mem_rule hslash) (by decide)⟩
  all_goals
    intro heq
    rw [heq] at hlength
    simp at hlength
    omega

/-- What a name of 256 letters leads to cannot be told. -/
theorem not_tells_rule (d : Disk) : ¬d.Tells (Path.ofString (Report.rule 'a' 256)) := by
  have hname : Disk.IsName (Report.rule 'a' 256) := isName_rule (by decide)
  have hlong : Disk.isLongName (Report.rule 'a' 256) = true := by decide +kernel
  have htext : Disk.textError? (Disk.Path.mk "" [Report.rule 'a' 256]).text = none := by
    have hsize : ¬Disk.pathLimit ≤ (Report.rule 'a' 256).utf8ByteSize := by decide +kernel
    have hnull : ¬(Report.rule 'a' 256).toList.contains '\x00' = true := by
      rw [List.contains_iff_mem]
      exact fun hmem => absurd (eq_of_mem_rule hmem) (by decide)
    rw [show (Disk.Path.mk "" [Report.rule 'a' 256]).text = Report.rule 'a' 256 by simp [Path.text],
      Disk.textError?, if_neg hnull, if_neg hsize]
  have hwalk : Disk.walkTo d.root true Disk.maxLinks [] [Report.rule 'a' 256] = .error .nameTooLong :=
    Disk.walkTo_long _ (by simp [hname.1, hname.2.1]) (by simp [hname.2.2.1]) hlong
  rintro ⟨found, hfound⟩
  rw [Path.ofString_name hname, Disk.probe, Disk.reach, Disk.find_relative htext, hwalk] at hfound
  cases hfound

end DartSurvey.CommandLine
