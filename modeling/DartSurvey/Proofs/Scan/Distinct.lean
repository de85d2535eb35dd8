import DartSurvey.Proofs.Disk.PathText
import DartSurvey.Proofs.Scan.Lazy
import DartSurvey.Proofs.Scan.Places

/-!
# No file is walked twice

The source files that a walk comes upon stand at pairwise different places, and have pairwise different
paths as texts.

- The files that a walk visits in a folder are among the entries of that folder other than folders
  (`sourcePlaces_filesIn`), and those below its subfolders among the entries there
  (`sourcePlaces_foldersIn`, by recursion on the tree), in the same order.
- Hence the places of the source files of a directory are apart (`apart_arrivalAt`). Places that are apart
  have different paths (`nodup_paths`), so the paths of the source files are different (`nodup_texts`).
-/

namespace DartSurvey.Scan

open Disk (Entry Folder Path)

/-- The place of a file to be visited. -/
def Encounter.source? : Encounter → Option (List String)
  | .source place => some place
  | .excluded _ | .hidden _ _ | .barred _ _ => none

/-- The places of all files to be visited, whatever breaks the walk off. -/
def sourcePlaces (xs : List Encounter) : List (List String) := xs.filterMap Encounter.source?

theorem sourcePlaces_append (xs ys : List Encounter) :
    sourcePlaces (xs ++ ys) = sourcePlaces xs ++ sourcePlaces ys := List.filterMap_append

/-- A walk that is broken off has visited the first of the files. -/
theorem sources_beginning (xs : List Encounter) : sources xs <+: sourcePlaces xs := by
  induction xs with
  | nil => exact List.prefix_rfl
  | cons x xs ih =>
    cases x with
    | source place => exact List.prefix_cons_inj place |>.mpr ih
    | excluded place => exact ih
    | hidden e place => exact List.nil_prefix
    | barred e place => exact List.nil_prefix

theorem mem_of_mem_sources {xs : List Encounter} {place : List String} (h : place ∈ sources xs) :
    .source place ∈ xs := by
  have hmem := (sources_beginning xs).subset h
  obtain ⟨x, hx, hplace⟩ := List.mem_filterMap.mp hmem
  cases x with
  | source p =>
    cases hplace
    exact hx
  | excluded p => cases hplace
  | hidden e p => cases hplace
  | barred e p => cases hplace

/-! ## Walked files -/

/-- Whether an entry is none that has a listing of its own. -/
def isLoose (_ : String) (e : Entry) : Bool := !e.isFolder

section Course

variable (root : Path) (rules : List Exclude.Rule) (disk : Disk)

theorem sourcePlaces_fileAt (folder : List String) (name : String) :
    (sourcePlaces (fileAt root rules disk folder name)).Sublist [folder ++ [name]] := by
  unfold fileAt
  split
  · exact List.nil_sublist _
  · cases disk.probeLink (root.append (folder ++ [name])) with
    | error e => exact List.nil_sublist _
    | ok link =>
      cases link with
      | true => exact List.nil_sublist _
      | false =>
        dsimp only
        split
        · exact List.nil_sublist _
        · exact List.Sublist.refl _

/-- The visited files of a folder are among its loose entries. -/
theorem sourcePlaces_filesIn (folder : List String) (entries : Folder) :
    (sourcePlaces (filesIn root rules disk folder entries)).Sublist (placesIn isLoose folder entries) := by
  induction entries with
  | nil => exact List.Sublist.refl _
  | cons x rest ih =>
    obtain ⟨name, e⟩ := x
    rw [filesIn_cons, sourcePlaces_append, placesIn_cons]
    refine List.Sublist.append ?_ ih
    by_cases hfolder : countsAsFolder root disk (folder ++ [name]) e = true
    · rw [if_pos hfolder]
      exact List.nil_sublist _
    · have hloose : isLoose name e = true := by
        cases e with
        | folder es => exact absurd rfl hfolder
        | link target => rfl
        | file bytes => rfl
      rw [if_neg hfolder, if_pos hloose]
      exact sourcePlaces_fileAt root rules disk folder name

/-- The visited files below the subfolders of a folder are among the loose entries there. -/
theorem sourcePlaces_foldersIn (folder : List String) (entries : Folder) :
    (sourcePlaces (foldersIn root rules disk folder entries)).Sublist (placesBelow isLoose folder entries) := by
  fun_induction foldersIn root rules disk folder entries with
  | case1 folder => exact List.nil_sublist _
  | case2 folder name es rest ihbelow ihrest =>
    rw [sourcePlaces_append, placesBelow]
    refine List.Sublist.append ?_ ihrest
    split
    · exact List.nil_sublist _
    · cases disk.list (root.dotted.append (folder ++ [name])) with
      | error e => exact List.nil_sublist _
      | ok listed =>
        rw [sourcePlaces_append]
        exact (sourcePlaces_filesIn root rules disk (folder ++ [name]) es).append ihbelow
  | case3 folder name target rest ih =>
    rw [placesBelow]
    exact ih
  | case4 folder name bytes rest ih =>
    rw [placesBelow]
    exact ih

/-- The visited files of a directory are among the loose entries of its tree. -/
theorem sources_arrivalAt {tree : Folder} (h : disk.list (root.dotted.append []) = .ok tree) :
    (sources (arrivalAt root rules disk [])).Sublist (placesFrom isLoose [] tree) := by
  refine (sources_beginning _).sublist.trans ?_
  rw [arrivalAt, h, sourcePlaces_append]
  exact (sourcePlaces_filesIn root rules disk [] tree).append (sourcePlaces_foldersIn root rules disk [] tree)

/-- The source files of a directory stand at pairwise different places. -/
theorem apart_arrivalAt (hd : disk.root.WellFormed) :
    Apart IsPlace (sources (arrivalAt root rules disk [])) := by
  cases hlist : disk.list (root.dotted.append []) with
  | error e =>
    rw [arrivalAt, hlist]
    exact Apart.nil
  | ok tree =>
    exact (apart_placesFrom isLoose (Disk.list_wellFormed hd hlist)).sublist
      (sources_arrivalAt root rules disk hlist)

end Course

/-- Places that are apart have pairwise different paths. -/
theorem nodup_paths (root : Path) {places : List (List String)} (h : Apart IsPlace places) :
    (places.map fun place => (root.append place).text).Nodup := by
  refine List.Nodup.map_on ?_ h.nodup
  intro place hp place' hp' htext
  obtain ⟨hne, hnames⟩ := h.all place hp
  obtain ⟨hne', hnames'⟩ := h.all place' hp'
  exact Path.text_append_inj hne hne' (fun s hs => (hnames s hs).2.2.2) (fun s hs => (hnames' s hs).2.2.2) htext

namespace Inspector

variable (ins : Inspector) {disk : Disk}

/-- The source files of a directory have pairwise different paths. -/
theorem nodup_texts (hd : disk.root.WellFormed) (root : String) :
    ((ins.sourceFiles disk root).files.map Path.text).Nodup := by
  rw [sourceFiles_eq ins disk hd, List.map_map]
  exact nodup_paths (Path.ofString root) (apart_arrivalAt (Path.ofString root) ins.rules disk hd)

end Inspector

end DartSurvey.Scan
