import DartSurvey.Proofs.Disk.Direct
import DartSurvey.Proofs.Disk.Storable
import DartSurvey.Proofs.Scan.Distinct
import DartSurvey.Proofs.Scan.Pruning

/-!
# What a walk without rules finds

A walk without rules yields the Dart files of the tree: the files, neither links nor folders, that are
named so and are reached through folders alone. Nothing but the length of a path breaks it off. Two things
that can break off a real walk are idealised away: a disk has no permissions, so every folder can be listed
and every entry looked at, and a walk has no recursion limit, so a tree may be of any depth.

- `isDart`, `isExamined`: the entries that are to be found, and those whose path the walk hands to the
  file system.
- `Finds`: what encounters give of some places, namely all of them, or the first of them and a failure
  because an examined path is too long. Two stretches of a walk give together what they give one after
  the other (`Finds.append`).
- One step: a file that is looked at (`finds_fileAt`); then the files of a folder (`finds_filesIn`), its
  subfolders by recursion on the tree (`finds_foldersIn`), and the whole walk (`finds_arrivalAt`).
- Where the directory, a slash and a place are short enough together, so are the paths by which it is examined
  (`fit_of_short`), and the source files are the Dart files of the tree (`sourceFiles_of_short`).
- `walk_yields_dart_files` puts this together; `long_path_hides_file` shows that the length of a path
  does matter.
-/

namespace DartSurvey.Scan

open Disk (AccessError Entry Folder Path)

/-- Whether an entry is a Dart file. -/
def isDart (name : String) (e : Entry) : Bool := e.isFile && Walk.isSource name

/-- Whether a walk hands the path of an entry to the file system: to list it, or to look whether it is a
link. -/
def isExamined (name : String) (e : Entry) : Bool := e.isFolder || Walk.isSource name

/-- That none of the places below a directory has a path that is too long, with the dot of the directory if
it is one. -/
def Fit (root : Path) (places : List (List String)) : Prop :=
  ∀ place ∈ places, (root.dotted.append place).text.utf8ByteSize < Disk.pathLimit

namespace Inspector

variable (ins : Inspector)

/-- That encounters give all of the places, or else the first of them and a failure because one of the
examined paths is too long. -/
def Finds (root : Path) (examined : List (List String)) (xs : List Encounter) (places : List (List String)) :
    Prop :=
  (ins.obstacle? root xs = none ∧ sources xs = places) ∨
    (¬Fit root examined ∧
      (∃ path, ins.obstacle? root xs = some (.unreadable (.access .nameTooLong path))) ∧
      sources xs <+: places)

namespace Finds

variable {ins} {root : Path} {examined more : List (List String)} {xs ys : List Encounter}
  {places others : List (List String)}

theorem nil : ins.Finds root examined [] [] := Or.inl ⟨rfl, rfl⟩

theorem mono (h : ins.Finds root examined xs places) (hsub : ∀ place ∈ examined, place ∈ more) :
    ins.Finds root more xs places := by
  rcases h with h | ⟨hlong, h⟩
  · exact Or.inl h
  · exact Or.inr ⟨fun hfit => hlong fun place hp => hfit place (hsub place hp), h⟩

/-- Behind an obstacle a walk does not go on. -/
theorem sources_append_obstacle {f : Failure} (h : ins.obstacle? root xs = some f) (ys : List Encounter) :
    sources (xs ++ ys) = sources xs ∧ ins.obstacle? root (xs ++ ys) = some f := by
  induction xs with
  | nil => cases h
  | cons x xs ih =>
    cases x with
    | source place =>
      obtain ⟨hsources, hobstacle⟩ := ih h
      exact ⟨congrArg (place :: ·) hsources, hobstacle⟩
    | excluded place => exact ih h
    | hidden e place => exact ⟨rfl, h⟩
    | barred e place => exact ⟨rfl, h⟩

/-- Two stretches of a walk, one after the other. -/
theorem append (hx : ins.Finds root examined xs places) (hy : ins.Finds root more ys others) :
    ins.Finds root (examined ++ more) (xs ++ ys) (places ++ others) := by
  rcases hx with ⟨hnone, hall⟩ | ⟨hlong, ⟨path, hsome⟩, hfirst⟩
  · obtain ⟨hsources, hobstacle⟩ := ins.sources_append root hnone ys
    have hright : ins.Finds root (examined ++ more) ys others := hy.mono fun _ hp => List.mem_append_right _ hp
    rcases hright with ⟨hnone', hall'⟩ | ⟨hlong', hsome', hfirst'⟩
    · exact Or.inl ⟨hobstacle.trans hnone', by rw [hsources, hall, hall']⟩
    · refine Or.inr ⟨hlong', by rwa [hobstacle], ?_⟩
      rw [hsources, hall]
      exact (List.prefix_append_right_inj places).mpr hfirst'
  · obtain ⟨hsources, hobstacle⟩ := sources_append_obstacle hsome ys
    refine Or.inr ⟨fun hfit => hlong fun place hp => hfit place (List.mem_append_left _ hp), ⟨path, hobstacle⟩, ?_⟩
    rw [hsources]
    exact hfirst.trans (List.prefix_append places others)

end Finds

/-! ## Along the tree -/

/-- The path of an entry of a listing is refused for its length only. -/
theorem refusal?_eq {disk : Disk} {p : Path} {folder : List String} {listed : Folder}
    (hl : disk.reach (p.append folder) = .ok (.folder listed)) (hs : listed.Storable) {name : String} {e : Entry}
    (h : (name, e) ∈ listed) :
    Disk.refusal? (p.append folder) name =
      if Disk.pathLimit ≤ (p.append (folder ++ [name])).text.utf8ByteSize then some .nameTooLong else none := by
  rw [Path.append_snoc, Disk.refusal?_of_storable (Disk.textError?_of_find hl) (hs.mem h).1]

section Course

variable {root : Path} {disk : Disk} (hd : disk.root.WellFormed) {folder : List String} {listed : Folder}
  (hl : disk.reach (root.dotted.append folder) = .ok (.folder listed)) (hs : listed.Storable)

include hd hl hs

/-- What a walk finds where it looks at an entry. -/
theorem finds_fileAt {name : String} {e : Entry} (h : (name, e) ∈ listed) (he : e.isFolder = false) :
    ins.Finds root (if isExamined name e then [folder ++ [name]] else [])
      (fileAt root [] disk folder name) (if isDart name e then [folder ++ [name]] else []) := by
  unfold fileAt isDart isExamined
  by_cases hname : Walk.isSource name = true
  · simp only [hname, Bool.not_true, Bool.false_eq_true, ↓reduceIte, Bool.or_true, Bool.and_true]
    -- the file is looked at by its plain path, which leads to what is listed too
    have hplain : disk.reach (root.append folder) = .ok (.folder listed) := Disk.find_of_dotted hl
    have hrefusal := refusal?_eq hplain hs h
    unfold Disk.probeLink
    by_cases hlong : Disk.pathLimit ≤ (root.append (folder ++ [name])).text.utf8ByteSize
    · rw [if_pos hlong] at hrefusal
      have hfind := Disk.find_refused hd hplain h hrefusal false
      rw [← Path.append_snoc] at hfind
      refine Or.inr ⟨?_, ⟨(root.append (folder ++ [name])).text, ?_⟩, ?_⟩
      · intro hfit
        have hshort := hfit _ (List.mem_singleton_self _)
        have hle := Disk.size_text_le_dotted root (folder ++ [name])
        omega
      · rw [hfind]
        rfl
      · rw [hfind]
        exact List.nil_prefix
    · rw [if_neg hlong] at hrefusal
      have hfind := Disk.find_allowed hd hplain h hrefusal false (by simp)
      rw [← Path.append_snoc] at hfind
      rw [hfind]
      cases e with
      | folder es => cases he
      | link target => exact Finds.nil
      | file bytes => exact Or.inl ⟨rfl, rfl⟩
  · simp only [hname, Bool.not_false, ↓reduceIte, Bool.and_false, Bool.false_eq_true]
    exact Finds.nil

/-- What a walk finds in a folder. -/
theorem finds_filesIn {entries : Folder} (hsub : ∀ x ∈ entries, x ∈ listed) :
    ins.Finds root (placesIn isExamined folder entries) (filesIn root [] disk folder entries)
      (placesIn isDart folder entries) := by
  induction entries with
  | nil => exact Finds.nil
  | cons x rest ih =>
    obtain ⟨name, e⟩ := x
    have hrest := ih fun x hx => hsub x (List.mem_cons_of_mem _ hx)
    rw [placesIn_cons, placesIn_cons, filesIn_cons]
    refine Finds.append ?_ hrest
    by_cases hfolder : countsAsFolder root disk (folder ++ [name]) e = true
    · -- a folder, or a link to one, is no file
      have hnot : isDart name e = false := by
        cases e with
        | folder es => rfl
        | link target => rfl
        | file bytes => cases hfolder
      rw [if_pos hfolder, hnot]
      exact Finds.nil
    · have he : e.isFolder = false := by
        cases e with
        | folder es => exact absurd rfl hfolder
        | link target => rfl
        | file bytes => rfl
      rw [if_neg hfolder]
      exact ins.finds_fileAt hd hl hs (hsub _ List.mem_cons_self) he

end Course

section Tree

variable {root : Path} {disk : Disk} (hd : disk.root.WellFormed)

include hd

/-- What a walk finds below the subfolders of a folder. -/
theorem finds_foldersIn {folder : List String} {listed : Folder}
    (hl : disk.reach (root.dotted.append folder) = .ok (.folder listed)) (hs : listed.Storable) {entries : Folder}
    (hsub : ∀ x ∈ entries, x ∈ listed) :
    ins.Finds root (placesFrom isExamined folder entries) (foldersIn root [] disk folder entries)
      (placesBelow isDart folder entries) := by
  fun_induction foldersIn root [] disk folder entries generalizing listed with
  | case1 folder =>
    rw [placesBelow]
    exact Finds.nil
  | case2 folder name es rest ihbelow ihrest =>
    have hmem := hsub _ List.mem_cons_self
    have hrest := ihrest hl hs fun x hx => hsub x (List.mem_cons_of_mem _ hx)
    have hnone : ¬Exclude.excludes [] (Walk.relative (folder ++ [name])) true = true := Bool.false_ne_true
    have hrefusal := refusal?_eq hl hs hmem
    rw [if_neg hnone, placesBelow]
    have hjoin : ∀ first : List Encounter,
        ins.Finds root ([folder ++ [name]] ++ placesFrom isExamined (folder ++ [name]) es) first
          (placesIn isDart (folder ++ [name]) es ++ placesBelow isDart (folder ++ [name]) es) →
        ins.Finds root (placesFrom isExamined folder ((name, .folder es) :: rest))
          (first ++ foldersIn root [] disk folder rest)
          (placesIn isDart (folder ++ [name]) es ++ placesBelow isDart (folder ++ [name]) es
            ++ placesBelow isDart folder rest) := by
      intro first hfirst
      refine (hfirst.append hrest).mono ?_
      intro place hp
      rcases List.mem_append.mp hp with hp | hp
      · rw [placesFrom, placesIn_cons, placesBelow]
        rcases List.mem_append.mp hp with hp | hp
        · exact List.mem_append_left _ (List.mem_append_left _ hp)
        · exact List.mem_append_right _ (List.mem_append_left _ hp)
      · exact mem_placesFrom_cons isExamined hp _
    refine hjoin _ ?_
    by_cases hlong : Disk.pathLimit ≤ (root.dotted.append (folder ++ [name])).text.utf8ByteSize
    · -- the subfolder cannot be listed
      rw [if_pos hlong] at hrefusal
      have hfind := Disk.find_refused hd hl hmem hrefusal true
      rw [← Path.append_snoc] at hfind
      have hlist : disk.list (root.dotted.append (folder ++ [name])) = .error .nameTooLong := by
        rw [Disk.list, Disk.reach, hfind]
      rw [hlist]
      refine Or.inr ⟨?_, ⟨_, rfl⟩, List.nil_prefix⟩
      intro hfit
      have hshort := hfit _ List.mem_cons_self
      omega
    · rw [if_neg hlong] at hrefusal
      have hreach : disk.reach (root.dotted.append (folder ++ [name])) = .ok (.folder es) := by
        rw [Path.append_snoc]
        exact Disk.find_allowed hd hl hmem hrefusal true fun _ => rfl
      have hlist : disk.list (root.dotted.append (folder ++ [name])) = .ok es := by rw [Disk.list, hreach]
      have hes : Folder.Storable es := (hs.mem hmem).2
      rw [hlist]
      have hgroup := (ins.finds_filesIn hd hreach hes fun x hx => hx).append (ihbelow hreach hes fun x hx => hx)
      refine hgroup.mono ?_
      intro place hp
      refine List.mem_append_right _ ?_
      rcases List.mem_append.mp hp with hp | hp
      · exact List.mem_append_left _ hp
      · exact hp
  | case3 folder name target rest ih =>
    rw [placesBelow]
    exact (ih hl hs fun x hx => hsub x (List.mem_cons_of_mem _ hx)).mono
      fun place hp => mem_placesFrom_cons isExamined hp _
  | case4 folder name bytes rest ih =>
    rw [placesBelow]
    exact (ih hl hs fun x hx => hsub x (List.mem_cons_of_mem _ hx)).mono
      fun place hp => mem_placesFrom_cons isExamined hp _

/-- What a walk without rules finds. -/
theorem finds_arrivalAt {tree : Folder} (hroot : disk.reach root = .ok (.folder tree)) (hs : tree.Storable) :
    ins.Finds root (placesFrom isExamined [] tree) (arrivalAt root [] disk []) (placesFrom isDart [] tree) := by
  have hl : disk.reach (root.dotted.append []) = .ok (.folder tree) := (disk.find_dotted true root).trans hroot
  have hlist : disk.list (root.dotted.append []) = .ok tree := by rw [Disk.list, hl]
  rw [arrivalAt, hlist]
  have hwalk := (ins.finds_filesIn hd hl hs fun x hx => hx).append (ins.finds_foldersIn hd hl hs fun x hx => hx)
  refine hwalk.mono ?_
  intro place hp
  rcases List.mem_append.mp hp with hp | hp
  · exact List.mem_append_left _ hp
  · exact hp

end Tree

/-! ## The walk of a directory -/

/-- The length of the directory, a slash and a place bounds every path by which the place is examined. -/
theorem fit_of_short {root : Path} {tree : Folder} (htree : tree.WellFormed)
    (hshort : ∀ place ∈ placesFrom isExamined [] tree,
      (root.text ++ "/" ++ Walk.relative place).utf8ByteSize < Disk.pathLimit) :
    Fit root (placesFrom isExamined [] tree) := by
  intro place hp
  have hplace := (apart_placesFrom isExamined htree).all place hp
  have hsize := hshort place hp
  rw [← Path.text_dotted] at hsize
  exact lt_of_le_of_lt (Disk.size_text_append_le _ hplace.1) hsize

/-- Where no path is too long, the source files are the Dart files of the tree. -/
theorem sourceFiles_of_short {disk : Disk} (hd : disk.root.WellFormed) (hrules : ins.rules = []) {root : String}
    {tree : Folder} (hroot : disk.reach (Path.ofString root) = .ok (.folder tree)) (hs : tree.Storable)
    (hshort : ∀ place ∈ placesFrom isExamined [] tree,
      ((Path.ofString root).text ++ "/" ++ Walk.relative place).utf8ByteSize < Disk.pathLimit) :
    ins.sourceFiles disk root = ⟨(placesFrom isDart [] tree).map (Path.ofString root).append, none⟩ := by
  have htree : tree.WellFormed := Disk.list_wellFormed hd (by rw [Disk.list, hroot])
  rw [sourceFiles_eq ins disk hd, hrules]
  rcases ins.finds_arrivalAt hd hroot hs with ⟨hnone, hsources⟩ | ⟨hlong, _⟩
  · rw [hnone, hsources]
  · exact absurd (fit_of_short htree hshort) hlong

/-- **A walk without rules finds the Dart files.** There is a list of all Dart files of the tree of a
directory, each once and under a path of its own, those of any folder together and its own before those
of its subfolders. The walk ends if the path of everything it examines is short enough; if it ends, it
has yielded the list; if not, it has yielded the beginning of the list, and a path was too long. -/
theorem walk_yields_dart_files {disk : Disk} (hd : disk.root.WellFormed) (hrules : ins.rules = []) {root : String}
    {tree : Folder} (hroot : disk.reach (Path.ofString root) = .ok (.folder tree)) (hs : tree.Storable) :
    let run := ins.drain disk (.directory root true)
    let pathOf := fun place => ((Path.ofString root).append place).text
    ∃ all : List (List String),
      (∀ place, place ∈ all ↔ KeptAt isDart tree place) ∧ all.Nodup ∧ (all.map pathOf).Nodup ∧
      (∀ folder, Contiguous folder all) ∧
      ((∀ place, KeptAt isExamined tree place →
          ((Path.ofString root).text ++ "/" ++ Walk.relative place).utf8ByteSize < Disk.pathLimit) →
        run.failure = none) ∧
      (run.failure = none → run.items = all.map fun place => .path (pathOf place)) ∧
      ∀ f, run.failure = some f → (∃ path, f = .unreadable (.access .nameTooLong path)) ∧
        run.items <+: all.map fun place => .path (pathOf place) := by
  intro run pathOf
  have hfolder : disk.isFolder (Path.ofString root) = true := by rw [Disk.isFolder, hroot]
  have htree : tree.WellFormed := Disk.list_wellFormed hd (by rw [Disk.list, hroot])
  have hapart := apart_placesFrom isDart htree
  obtain ⟨hitems, hfailure⟩ := ins.drain_files disk hd hfolder
  rw [sourceFiles_eq ins disk hd, hrules] at hitems hfailure
  rw [List.map_map] at hitems
  have hfinds := ins.finds_arrivalAt hd hroot hs
  have hall : ∀ {keep : String → Entry → Bool} {place : List String},
      place ∈ placesFrom keep [] tree ↔ KeptAt keep tree place := by
    intro keep place
    rw [mem_placesFrom htree]
    simp
  refine ⟨placesFrom isDart [] tree, fun _ => hall, hapart.nodup, nodup_paths _ hapart,
    contiguous_placesFrom isDart htree [], ?_, ?_, ?_⟩
  · intro hshort
    rcases hfinds with ⟨hnone, _⟩ | ⟨hlong, _⟩
    · exact hfailure.trans hnone
    · exact absurd (fit_of_short htree fun place hp => hshort place (hall.mp hp)) hlong
  · intro hnone
    rcases hfinds with ⟨_, hsources⟩ | ⟨_, ⟨path, hsome⟩, _⟩
    · rw [hsources] at hitems
      exact hitems
    · rw [hsome] at hfailure
      cases hfailure.symm.trans hnone
  · intro f hf
    rcases hfinds with ⟨hnone, _⟩ | ⟨_, ⟨path, hsome⟩, hfirst⟩
    · rw [hnone] at hfailure
      cases hfailure.symm.trans hf
    · rw [hsome] at hfailure
      refine ⟨⟨path, Option.some.inj (hf.symm.trans hfailure)⟩, ?_⟩
      rw [show run.items = _ from hitems]
      exact hfirst.map _

/-- A directory with links to a file, to nothing, to itself and to the folder above, and with a folder
that is named like a Dart file. -/
def tangledTree : Folder :=
  [("a.dart", .file []), ("d.dart", .folder [("b.dart", .file []), ("up", .link "..")]),
    ("gone.dart", .link "nowhere"), ("l.dart", .link "a.dart"), ("self", .link ".")]

/-- The disk with that directory. -/
def tangledDisk : Disk where
  base := "/work"
  root := [("lib", .folder tangledTree)]

theorem walk_yields_dart_files_tangled :
    (tangledDisk.root.WellFormed ∧ tangledTree.Storable ∧
        tangledDisk.reach (Path.ofString "lib") = .ok (.folder tangledTree)) ∧
      ((detourInspector []).drain tangledDisk (.directory "lib" true)).failure = none ∧
      .path "lib/d.dart/b.dart" ∈ ((detourInspector []).drain tangledDisk (.directory "lib" true)).items := by
  have hd : tangledDisk.root.WellFormed := by
    simp [tangledDisk, tangledTree, Disk.Folder.WellFormed, Disk.Entry.WellFormed, Disk.IsName]
  have hs : tangledTree.Storable := by
    simp only [tangledTree, Disk.Folder.Storable, Disk.Entry.Storable, Disk.CanStore]
    decide
  have hroot : tangledDisk.reach (Path.ofString "lib") = .ok (.folder tangledTree) := by
    have hpath : Path.ofString "lib" = ⟨"", ["lib"]⟩ := by decide
    rw [hpath]
    exact Disk.find_folder ["lib"] (by decide) rfl (by decide)
  have hexamined : ∀ place, KeptAt isExamined tangledTree place →
      ((Path.ofString "lib").text ++ "/" ++ Walk.relative place).utf8ByteSize < Disk.pathLimit := by
    intro place hp
    have hmem : place ∈ placesFrom isExamined [] tangledTree :=
      (mem_placesFrom (Disk.list_wellFormed hd (by rw [Disk.list, hroot]))).mpr ⟨place, rfl, hp⟩
    have hshort : ∀ place ∈ placesFrom isExamined [] tangledTree,
        ((Path.ofString "lib").text ++ "/" ++ Walk.relative place).utf8ByteSize < Disk.pathLimit := by
      simp only [placesFrom, tangledTree, placesBelow]
      decide
    exact hshort place hmem
  obtain ⟨all, hmem, _, _, _, hends, hyields, _⟩ :=
    (detourInspector []).walk_yields_dart_files hd rfl hroot hs
  have hnone := hends hexamined
  refine ⟨⟨hd, hs, hroot⟩, hnone, ?_⟩
  rw [hyields hnone]
  have hpath : ((Path.ofString "lib").append ["d.dart", "b.dart"]).text = "lib/d.dart/b.dart" := by decide
  refine List.mem_map.mpr ⟨["d.dart", "b.dart"], (hmem _).mpr ?_, congrArg Item.path hpath⟩
  exact ⟨"b.dart", .file [], rfl, rfl, by decide⟩

/-- A path that is too long hides a file from a walk, and breaks the walk off. -/
theorem long_path_hides_file :
    (detourDisk.root.WellFormed ∧
        ∃ tree : Folder, detourDisk.reach (Path.ofString (detourText 816 ++ "x")) = .ok (.folder tree) ∧
          tree.Storable ∧ KeptAt isDart tree ["lib", "f.dart"]) ∧
      ((detourInspector []).drain detourDisk (.directory (detourText 816 ++ "x") true)).items = [] ∧
      ∃ path, ((detourInspector []).drain detourDisk (.directory (detourText 816 ++ "x") true)).failure =
        some (.unreadable (.access .nameTooLong path)) := by
  have hshort : 5 * 816 + 12 < 4096 := by decide
  have hroot := isFolder_detour hshort
  obtain ⟨hitems, hfailure⟩ := (detourInspector []).drain_files detourDisk wellFormed_detourDisk hroot
  rw [sourceFiles_eq _ _ wellFormed_detourDisk, ofString_detour, arrivalAt_detour _ hshort] at hitems hfailure
  have hreach := find_detour_root hshort
  rw [← ofString_detour] at hreach
  refine ⟨⟨wellFormed_detourDisk, _, hreach, ?_, "f.dart", .file [], rfl, rfl, by decide⟩, hitems, _, hfailure⟩
  simp only [Disk.Folder.Storable, Disk.Entry.Storable, Disk.CanStore]
  decide

end Inspector

end DartSurvey.Scan
