import DartSurvey.CommandLine.Run
import DartSurvey.Proofs.Settings.Loading

/-!
# How a run is planned

Before anything is printed, four things are looked at one after the other: the flags, the directory, the
settings file that is asked for, and the settings with the policy they give. The first of them that is not as
it should be ends the run.

- `plan_conflicting`, `plan_no_directory`, `plan_no_settings`: what each of the first three ends with.
- `plan_of_found`: where none of these ends a run, its plan is what its settings give; so the plan is refused
  (`plan_unusable`) or made (`plan_usable`) as they are.
- `forDirectory_usable`: a request for a directory alone is planned by the settings that stand there.

What the operating system cannot tell of a path (`Disk.Tells`) is kept apart from what is not there.
-/

namespace DartSurvey

open Disk (Path)

namespace Disk

/-- That a path leads to an entry of a kind. -/
def LeadsTo (d : Disk) (p : Path) (kind : Entry → Bool) : Prop := ∃ e, d.reach p = .ok e ∧ kind e = true

/-- That it can be told what a path leads to, be it to nothing. -/
def Tells (d : Disk) (p : Path) : Prop := ∃ found, d.probe p = .ok found

theorem leadsTo_isFolder {d : Disk} {p : Path} : d.LeadsTo p Entry.isFolder ↔ d.isFolder p = true := by
  unfold LeadsTo isFolder
  cases d.reach p with
  | error e => simp
  | ok e => cases e <;> simp [Entry.isFolder]

end Disk

namespace CommandLine

variable {d : Disk} {path directory : String} {kind : Disk.Entry → Bool}

theorem leadsTo_eq (d : Disk) (path : String) (kind : Disk.Entry → Bool) :
    leadsTo d path kind = match d.probe (Path.ofString path) with
      | .ok found => .ok (found.any kind)
      | .error e => .error (.brokeOffAtPath e (Path.ofString path).text) := by
  rfl

theorem leadsTo_of_leadsTo (h : d.LeadsTo (Path.ofString path) kind) : leadsTo d path kind = .ok true := by
  obtain ⟨e, he, hkind⟩ := h
  simp [leadsTo_eq, Disk.probe, he, hkind]

/-- Where a path does not lead to an entry of a kind, that is what is found out, or it cannot be told. -/
theorem leadsTo_of_not (h : ¬d.LeadsTo (Path.ofString path) kind) :
    (d.Tells (Path.ofString path) ∧ leadsTo d path kind = .ok false) ∨
      ¬d.Tells (Path.ofString path) ∧
        ∃ e, leadsTo d path kind = .error (.brokeOffAtPath e (Path.ofString path).text) := by
  rw [leadsTo_eq, Disk.Tells]
  cases hprobe : d.probe (Path.ofString path) with
  | error e => exact Or.inr ⟨by simp, e, rfl⟩
  | ok found =>
    refine Or.inl ⟨⟨found, rfl⟩, congrArg Except.ok ?_⟩
    unfold Disk.probe at hprobe
    cases hreach : d.reach (Path.ofString path) with
    | error e =>
      rw [hreach] at hprobe
      by_cases habsent : e.isAbsence = true
      · simp only [habsent, ↓reduceIte, Except.ok.injEq] at hprobe
        rw [← hprobe, Option.any_none]
      · simp [habsent] at hprobe
    | ok e =>
      rw [hreach] at hprobe
      simp only [Except.ok.injEq] at hprobe
      rw [← hprobe, Option.any_some]
      exact Bool.eq_false_iff.mpr fun hkind => h ⟨e, hreach, hkind⟩

namespace Request

variable (r : Request)

/-- That a request asks for final fields only and for no final fields. -/
def Conflicting : Prop := r.flags.contains .finalOnly = true ∧ r.flags.contains .noFinal = true

/-- The path at which the settings of a request are looked for: the one that is asked for, or the directory. -/
def settingsPath (directory : String) : Path := Path.ofString ((given r.config).getD directory)

/-- That the settings file a request asks for is there, if it asks for one. -/
def HasSettingsFile (d : Disk) : Prop :=
  ∀ path, given r.config = some path → d.LeadsTo (Path.ofString path) Disk.Entry.isFile

/-- What keeps the settings of a request from being used: the file that is asked for is not there, the settings
are invalid, or they and the flags give no policy. -/
inductive SettingsUnusable (r : Request) (d : Disk) (directory : String) : Prop
  | noFile (h : ¬r.HasSettingsFile d)
  | invalid (p : Settings.Problem) (h : SettingsFile.load d (r.settingsPath directory) = .error (.problem p))
  | noPolicy (s : Settings) (place : SettingsFile.Place) (p : Settings.Problem)
      (hload : SettingsFile.load d (r.settingsPath directory) = .ok (s, place))
      (h : s.policy r.format r.flagList = .error p)

/-- The plan of a request whose settings can be used: the policy is that of the settings and the flags, and the
format the one that is asked for or else that of the settings. -/
structure PlannedAs (d : Disk) (directory : String) (p : Plan) : Prop where
  scans : p.directory = directory
  settings : ∃ s place, SettingsFile.load d (r.settingsPath directory) = .ok (s, place) ∧
    s.policy r.format r.flagList = .ok p.policy ∧ p.format = r.format.getD s.format ∧
      p.excludePaths = s.usablePaths

variable {r}

/-- The settings of a request, by what is loaded from its settings path. -/
theorem settings_eq (r : Request) (d : Disk) (directory : String) :
    r.settings d directory =
      match SettingsFile.load d (r.settingsPath directory) with
      | .error (.problem p) => .error (.settingsInvalid p)
      | .error e => .error (.brokeOffAtSettings e)
      | .ok (s, _) =>
        match s.policy r.format r.flagList with
        | .error p => .error (.settingsInvalid p)
        | .ok p => .ok (s, p) := rfl

/-- Settings that cannot be loaded end a run with an exit code exactly if that is reported as a problem. -/
theorem settings_error {e : SettingsFile.LoadError}
    (h : SettingsFile.load d (r.settingsPath directory) = .error e) :
    ∃ ending, r.settings d directory = .error ending ∧
      ((∃ p, e = .problem p) → ending.exitCode? = some 78) ∧
      ((¬∃ p, e = .problem p) → ending.exitCode? = none) := by
  rw [settings_eq, h]
  cases e with
  | problem p => exact ⟨.settingsInvalid p, rfl, fun _ => rfl, fun hnot => absurd ⟨p, rfl⟩ hnot⟩
  | undecodable _ | noValue _ | unwritable | noHome | linkLoop _ | inaccessible _ _ =>
    refine ⟨.brokeOffAtSettings _, rfl, ?_, fun _ => rfl⟩
    rintro ⟨p, hp⟩
    cases hp

/-! ## The checks -/

theorem not_conflicting (h : ¬r.Conflicting) :
    ¬(r.flags.contains .finalOnly && r.flags.contains .noFinal) = true := by
  rwa [Bool.and_eq_true]

theorem plan_conflicting (h : r.Conflicting) : r.plan d directory = .error .conflictingFlags := by
  have hboth : (r.flags.contains .finalOnly && r.flags.contains .noFinal) = true := by rwa [Bool.and_eq_true]
  unfold plan
  rw [if_pos hboth]
  rfl

/-- What is no directory ends a run, which breaks off if it cannot be told what is there. -/
theorem plan_no_directory (hflags : ¬r.Conflicting)
    (h : ¬d.LeadsTo (Path.ofString directory) Disk.Entry.isFolder) :
    ∃ e, r.plan d directory = .error e ∧
      (d.Tells (Path.ofString directory) → e = .directoryNotFound directory) ∧
      (¬d.Tells (Path.ofString directory) → e.exitCode? = none) := by
  unfold plan
  rw [if_neg (not_conflicting hflags)]
  rcases leadsTo_of_not h with ⟨htells, hfalse⟩ | ⟨hnot, e, herror⟩
  · exact ⟨.directoryNotFound directory, by rw [hfalse]; rfl, fun _ => rfl, fun hnot => absurd htells hnot⟩
  · exact ⟨.brokeOffAtPath e _, by rw [herror]; rfl, fun htells => absurd htells hnot, fun _ => rfl⟩

section Directory

variable (hflags : ¬r.Conflicting) (hdirectory : d.LeadsTo (Path.ofString directory) Disk.Entry.isFolder)

include hflags hdirectory

/-- A settings file that is asked for and not there ends a run. -/
theorem plan_no_settings (h : ¬r.HasSettingsFile d) :
    ∃ path, given r.config = some path ∧ ∃ e, r.plan d directory = .error e ∧
      (d.Tells (Path.ofString path) → e = .settingsNotFound path) := by
  simp only [HasSettingsFile, Classical.not_forall] at h
  obtain ⟨path, hconfig, hfile⟩ := h
  refine ⟨path, hconfig, ?_⟩
  unfold plan
  rw [if_neg (not_conflicting hflags), leadsTo_of_leadsTo hdirectory, hconfig]
  rcases leadsTo_of_not hfile with ⟨_, hfalse⟩ | ⟨hnot, e, herror⟩
  · exact ⟨.settingsNotFound path, by simp only [hfalse]; rfl, fun _ => rfl⟩
  · exact ⟨.brokeOffAtPath e _, by simp only [herror]; rfl, fun htells => absurd htells hnot⟩

/-- Where directory and settings file are there, the plan is what the settings give. -/
theorem plan_of_found (h : r.HasSettingsFile d) :
    r.plan d directory = (r.settings d directory).map fun (s, policy) =>
      { directory, policy, format := r.format.getD s.format, excludePaths := s.usablePaths } := by
  have hfound : ∀ path, given r.config = some path → leadsTo d path Disk.Entry.isFile = .ok true :=
    fun path hconfig => leadsTo_of_leadsTo (h path hconfig)
  unfold plan
  rw [if_neg (not_conflicting hflags), leadsTo_of_leadsTo hdirectory]
  cases hconfig : given r.config with
  | none =>
    cases r.settings d directory with
    | error e => rfl
    | ok x => rfl
  | some path =>
    simp only [hfound path hconfig]
    cases r.settings d directory with
    | error e => rfl
    | ok x => rfl

/-- Settings that cannot be used end a run. -/
theorem plan_unusable (h : r.SettingsUnusable d directory) :
    ∃ e, r.plan d directory = .error e ∧
      ((∀ path, given r.config = some path → d.Tells (Path.ofString path)) → e.exitCode? = some 78) := by
  by_cases hfile : r.HasSettingsFile d
  · rw [plan_of_found hflags hdirectory hfile]
    cases h with
    | noFile hnot => exact absurd hfile hnot
    | invalid p hload =>
      have hsettings : r.settings d directory = .error (.settingsInvalid p) := by
        simp only [settings_eq, hload]
      exact ⟨.settingsInvalid p, by rw [hsettings]; rfl, fun _ => rfl⟩
    | noPolicy s place p hload hpolicy =>
      have hsettings : r.settings d directory = .error (.settingsInvalid p) := by
        simp only [settings_eq, hload, hpolicy]
      exact ⟨.settingsInvalid p, by rw [hsettings]; rfl, fun _ => rfl⟩
  · obtain ⟨path, hconfig, e, hplan, he⟩ := plan_no_settings hflags hdirectory hfile
    refine ⟨e, hplan, fun htells => ?_⟩
    rw [he (htells path hconfig)]
    rfl

/-- Settings that can be used give the plan of a run, if they can be loaded at all. -/
theorem plan_usable
    (hload : SettingsFile.ReportsProblems d (r.settingsPath directory))
    (h : ¬r.SettingsUnusable d directory) : ∃ p, r.plan d directory = .ok p ∧ r.PlannedAs d directory p := by
  have hfile : r.HasSettingsFile d := Classical.byContradiction fun hnot => h (.noFile hnot)
  rw [plan_of_found hflags hdirectory hfile]
  cases hloaded : SettingsFile.load d (r.settingsPath directory) with
  | error e =>
    obtain ⟨p, rfl⟩ := hload e hloaded
    exact absurd (.invalid p hloaded) h
  | ok x =>
    obtain ⟨s, place⟩ := x
    cases hpolicy : s.policy r.format r.flagList with
    | error p => exact absurd (.noPolicy s place p hloaded hpolicy) h
    | ok policy =>
      have hsettings : r.settings d directory = .ok (s, policy) := by
        simp only [settings_eq, hloaded, hpolicy]
      rw [hsettings]
      exact ⟨_, rfl, ⟨rfl, s, place, hloaded, hpolicy, rfl, rfl⟩⟩

end Directory

/-! ## Requests for a directory alone -/

/-- The request for a directory and nothing else. -/
def forDirectory (directory : String) : Request := { directory := some directory }

/-- A word that does not look like an option is the directory. -/
theorem parse_operand {word : String} (h : word.toList.head? ≠ some '-') :
    parse [word] = .ok (some (forDirectory word)) := by
  have hseparator : ¬(word == "--") = true := by
    intro heq
    rw [eq_of_beq heq] at h
    exact h (by decide)
  have hword : Word.ofString word = .ok (.operand word) := by simp [Word.ofString, h]
  simp only [parse, Word.ofStrings, hseparator, Bool.false_eq_true, ↓reduceIte, hword, bind, Except.bind, pure,
    Except.pure, readWords, Progress.operand]
  rfl

theorem forDirectory_not_conflicting (directory : String) : ¬(forDirectory directory).Conflicting := by
  rintro ⟨h, _⟩
  cases h

theorem forDirectory_hasSettingsFile (directory : String) : (forDirectory directory).HasSettingsFile d :=
  fun path hconfig => by cases hconfig

/-- A directory that stands for the standard settings can be planned for, and no path is left out. -/
theorem forDirectory_usable {place : SettingsFile.Place}
    (hload : SettingsFile.load d (Path.ofString directory) = .ok ({}, place)) :
    SettingsFile.ReportsProblems d ((forDirectory directory).settingsPath directory) ∧
      ¬(forDirectory directory).SettingsUnusable d directory ∧
      ∀ p, (forDirectory directory).PlannedAs d directory p → p.excludePaths = [] := by
  have hpath : SettingsFile.load d ((forDirectory directory).settingsPath directory) = .ok ({}, place) := hload
  obtain ⟨policy, hpolicy⟩ :
      ∃ policy, ({} : Settings).policy none (forDirectory directory).flagList = .ok policy := ⟨_, rfl⟩
  refine ⟨?_, ?_, ?_⟩
  · intro e he
    rw [hpath] at he
    cases he
  · rintro (hnot | ⟨p, h⟩ | ⟨s, place', p, h, hnone⟩)
    · exact hnot (forDirectory_hasSettingsFile directory)
    · rw [hpath] at h
      cases h
    · rw [hpath] at h
      cases h
      cases hpolicy.symm.trans hnone
  · rintro p ⟨_, s, place', h, _, _, hpaths⟩
    rw [hpath] at h
    cases h
    rw [hpaths]
    rfl

end Request

end CommandLine

end DartSurvey
