import DartSurvey.Proofs.Settings.Overlong
import DartSurvey.SettingsFile

/-!
# How settings files are loaded

- A folder stands for the settings file in it (`locate_folder`), and one that is not there for the standard
  settings (`load_of_missing`).
- What is loaded from a file depends on its bytes: on whether they are a text (`load_of_undecodable`,
  `load_of_text`), and on the data in it (`readSettings_reports_iff`).
- `reportsProblems_iff` says which bytes give settings or a problem that is reported as one: those of a text
  whose data can be made, and hold no number that is too long where it has to be written.
-/

namespace DartSurvey.SettingsFile

open Disk (Path)

variable {d : Disk} {p : Path} {place : Place}

/-- That what a path stands for gives settings, or a problem with them. -/
def ReportsProblems (d : Disk) (p : Path) : Prop :=
  ∀ e, load d p = .error e → ∃ problem, e = .problem problem

/-- That bytes give settings, or a problem with them: they are a text that is blank, or one with data, or one
that is malformed; and no number in the data is too long where it has to be written. -/
def Reportable (bytes : List UInt8) : Prop :=
  ∃ text, Disk.decodeText bytes = .ok text ∧
    ((Text.trim text.toList).isEmpty = false →
      (∀ f, Yaml.load Settings.depth text = .error f → f = .malformed) ∧
        ∀ entries, Yaml.load Settings.depth text = .ok (.map entries) → ¬Settings.Overlong entries)

/-! ## Where settings are looked for -/

theorem load_of_missing (hlocate : locate d p = .ok place) (hmissing : d.reach place.path = .error .missing) :
    load d p = .ok ({}, place) := by
  have hlook : look d place.path (d.absolute place.parts) = .ok none := by
    simp [look, Disk.probe, hmissing, Disk.AccessError.isAbsence]
  simp only [load, hlocate, bind, Except.bind, hlook]
  rfl

/-- A folder stands for the settings file in it. -/
theorem locate_folder {folder : List String} {entries : Disk.Folder} (hhome : expandHome p = .ok p)
    (hfolder : d.reach p = .ok (.folder entries))
    (hnull : '\x00' ∉ (p.append [Settings.fileName]).text.toList)
    (hcanonical : d.canonical ((d.inside? (p.append [Settings.fileName])).getD (p.append [Settings.fileName]).parts)
      = folder ++ [Settings.fileName])
    (hloop : d.reach ⟨"", folder ++ [Settings.fileName]⟩ ≠ .error .tooManyLinks) :
    locate d p = .ok ⟨folder, Settings.fileName⟩ := by
  have hlook : look d p p.text = .ok (some (.folder entries)) := by simp [look, Disk.probe, hfolder]
  simp [locate, hhome, hlook, bind, Except.bind, Disk.Entry.isFolder, hnull, hcanonical, pure, Except.pure]

/-! ## Files with bytes -/

section Bytes

variable {bytes : List UInt8} (hlocate : locate d p = .ok place) (hread : d.read place.path = .ok bytes)

include hlocate hread

/-- A file with bytes is there, so what is loaded is what is read. -/
theorem load_of_read :
    load d p = match d.readText place.path (d.absolute place.parts) with
      | .ok text => (readSettings place.name text).map fun s => (s, place)
      | .error (.access e path) => .error (.problem (.unreadable place.name e path))
      | .error (.undecodable e) => .error (.undecodable e) := by
  have hlook : look d place.path (d.absolute place.parts) = .ok (some (.file bytes)) := by
    unfold Disk.read at hread
    split at hread
    · rename_i hreach
      cases hread
      simp [look, Disk.probe, hreach]
    all_goals cases hread
  simp only [load, hlocate, bind, Except.bind, hlook]
  cases d.readText place.path (d.absolute place.parts) with
  | error e => cases e <;> rfl
  | ok text => rfl

theorem load_of_text {text : String} (htext : Disk.decodeText bytes = .ok text) :
    load d p = (readSettings place.name text).map fun s => (s, place) := by
  rw [load_of_read hlocate hread, Disk.readText, hread]
  simp only [htext]

/-- Bytes that are no text cannot be loaded, and that is not reported as a problem. -/
theorem load_of_undecodable {e : Disk.ReadError} (htext : Disk.decodeText bytes = .error e) :
    ∃ e, load d p = .error (.undecodable e) := by
  rw [load_of_read hlocate hread, Disk.readText, hread]
  cases hdecode : Text.Utf8.decode bytes with
  | ok cs => simp [Disk.decodeText, hdecode] at htext
  | error e => exact ⟨e, by simp only [Disk.decodeText, hdecode]⟩

end Bytes

/-- A text is read as settings or as a problem unless its data cannot be made or hold a number that is too long
where it has to be written. -/
theorem readSettings_reports_iff (name text : String) :
    (∀ e, readSettings name text = .error e → ∃ problem, e = .problem problem) ↔
      ((Text.trim text.toList).isEmpty = false →
        (∀ f, Yaml.load Settings.depth text = .error f → f = .malformed) ∧
          ∀ entries, Yaml.load Settings.depth text = .ok (.map entries) → ¬Settings.Overlong entries) := by
  unfold readSettings
  cases hblank : (Text.trim text.toList).isEmpty with
  | true =>
    refine iff_of_true ?_ (fun h => by cases h)
    intro e he
    cases he
  | false =>
    simp only [Bool.false_eq_true, ↓reduceIte, forall_const]
    cases hload : Yaml.load Settings.depth text with
    | error f =>
      cases f with
      | malformed =>
        refine iff_of_true ?_ ⟨fun f hf => (Except.error.inj hf).symm, fun entries h => by cases h⟩
        intro e he
        cases he
        exact ⟨_, rfl⟩
      | noSuchValue _ | tooLarge _ | noTruthValue _ | noTime | notAText | noDigits | endless =>
        refine iff_of_false ?_ fun h => ?_
        · intro h
          obtain ⟨problem, hproblem⟩ := h _ rfl
          cases hproblem
        · cases h.1 _ rfl
    | ok datum =>
      have hlong : (∀ entries, (Except.ok datum : Except Yaml.Fault Yaml.Datum) = .ok (.map entries) →
          ¬Settings.Overlong entries) ↔ Settings.ofDatum datum ≠ .error .unwritable := by
        rw [Ne, Settings.ofDatum_unwritable_iff]
        simp
      rw [hlong]
      simp only [reduceCtorEq, false_implies, implies_true, true_and]
      cases hof : Settings.ofDatum datum with
      | ok s => simp
      | error p =>
        by_cases hp : p = .unwritable
        · subst hp
          simp
        · simp [hp]

/-- **Reported problems.** A file with bytes gives settings, or a problem that is reported as one, exactly if its
bytes are reportable. -/
theorem reportsProblems_iff {bytes : List UInt8} (hlocate : locate d p = .ok place)
    (hread : d.read place.path = .ok bytes) : ReportsProblems d p ↔ Reportable bytes := by
  unfold ReportsProblems Reportable
  cases htext : Disk.decodeText bytes with
  | error e =>
    obtain ⟨e', hload⟩ := load_of_undecodable hlocate hread htext
    refine iff_of_false ?_ (by simp)
    intro h
    obtain ⟨problem, hproblem⟩ := h _ hload
    cases hproblem
  | ok text =>
    simp only [Except.ok.injEq, exists_eq_left', ← readSettings_reports_iff place.name text,
      load_of_text hlocate hread htext]
    cases readSettings place.name text with
    | error e => simp [Except.map]
    | ok s => simp [Except.map]

end DartSurvey.SettingsFile
