import DartSurvey.Proofs.Scan.Lazy
import Mathlib.Data.List.Infix

/-!
# Pruning and filtering

A walk does not enter a folder that a rule matches. One could also walk through everything and leave
out, of the files found, those that a rule matches and those below a folder that a rule matches
(`spares`).

- What a walk with rules comes upon is what the walk without rules comes upon, less what lies below
  a matched folder (`arrivalAt_pruned`, from `foldersIn_flatMap_pruned` by recursion on the tree).
- So both ways give the same files in the same order, if the walk without rules is not broken off
  (`drain_eq_filter`); where it is, the pruned walk goes as far at least.
- It can go further, since a folder that cannot be listed is no obstacle for a walk that does not
  enter it (`pruned_walk_passes_obstacle`).
-/

namespace DartSurvey.Scan

open Disk (AccessError Entry Folder Path)

section Rules

variable (rules : List Exclude.Rule)

/-- Whether a walk gets to a folder: no rule matches it, nor a folder on the way to it. -/
def reaches (folder : List String) : Bool :=
  folder.inits.tail.all fun above => !Exclude.excludes rules (Walk.relative above) true

/-- Whether rules let a file through: no rule matches a folder on the way to it, nor the file. -/
def spares (file : List String) : Bool :=
  reaches rules file.dropLast && !Exclude.excludes rules (Walk.relative file) false

/-- What rules leave of an encounter of a walk without any. -/
def pruned : Encounter → List Encounter
  | .source place =>
    if !reaches rules place.dropLast then []
    else if Exclude.excludes rules (Walk.relative place) false then [.excluded place] else [.source place]
  | .excluded place => if reaches rules place.dropLast then [.excluded place] else []
  | .hidden e place => if reaches rules place.dropLast then [.hidden e place] else []
  | .barred e place => if reaches rules place then [.barred e place] else []

theorem reaches_nil : reaches rules [] = true := by
  simp [reaches]

/-- A walk gets to a subfolder if it gets to the folder and no rule matches the subfolder. -/
theorem reaches_snoc (folder : List String) (name : String) :
    reaches rules (folder ++ [name]) =
      (reaches rules folder && !Exclude.excludes rules (Walk.relative (folder ++ [name])) true) := by
  have hinits : (folder ++ [name]).inits.tail = folder.inits.tail ++ [folder ++ [name]] := by
    have hne : folder.inits ≠ [] := by
      intro h
      simpa [h] using List.mem_inits folder folder
    simp [List.inits_append, List.tail_append_of_ne_nil hne]
  rw [reaches, hinits, List.all_append]
  simp [reaches]

end Rules

/-! ## Encounters -/

section Course

variable (root : Path) (rules : List Exclude.Rule) (disk : Disk)

theorem fileAt_flatMap_pruned (folder : List String) (name : String) :
    (fileAt root [] disk folder name).flatMap (pruned rules)
      = if reaches rules folder then fileAt root rules disk folder name else [] := by
  have hnone : Exclude.excludes [] (Walk.relative (folder ++ [name])) false = false := rfl
  unfold fileAt
  split
  · simp
  · cases disk.probeLink (root.append (folder ++ [name])) with
    | error e => simp [pruned]
    | ok link =>
      cases link with
      | true => simp
      | false =>
        by_cases hr : reaches rules folder = true
        · simp [hnone, pruned, hr]
        · simp [hnone, pruned, hr]

theorem filesIn_flatMap_pruned (folder : List String) (entries : Folder) :
    (filesIn root [] disk folder entries).flatMap (pruned rules)
      = if reaches rules folder then filesIn root rules disk folder entries else [] := by
  simp only [filesIn, List.flatMap_assoc, fileAt_flatMap_pruned]
  split <;> simp

/-- Below a folder the walk gets to, the rules leave what the walk with rules comes upon; elsewhere
they leave nothing. -/
theorem foldersIn_flatMap_pruned (folder : List String) (entries : Folder) :
    (foldersIn root [] disk folder entries).flatMap (pruned rules)
      = if reaches rules folder then foldersIn root rules disk folder entries else [] := by
  fun_induction foldersIn root [] disk folder entries with
  | case1 folder => simp [foldersIn]
  | case2 folder name es rest ihb ihr =>
    have hnone : ¬Exclude.excludes [] (Walk.relative (folder ++ [name])) true = true := Bool.false_ne_true
    rw [if_neg hnone, List.flatMap_append, ihr, foldersIn]
    by_cases hr : reaches rules folder = true
    · simp only [hr, ↓reduceIte]
      congr 1
      by_cases hx : Exclude.excludes rules (Walk.relative (folder ++ [name])) true = true
      · -- a matched folder: nothing below it is left
        have hcut : reaches rules (folder ++ [name]) = false := by simp [reaches_snoc, hx]
        cases disk.list (root.dotted.append (folder ++ [name])) with
        | error e => simp [pruned, hcut, hx]
        | ok listed => simp [filesIn_flatMap_pruned, ihb, hcut, hx]
      · have hgo : reaches rules (folder ++ [name]) = true := by simp [reaches_snoc, hx, hr]
        cases disk.list (root.dotted.append (folder ++ [name])) with
        | error e => simp [pruned, hgo, hx]
        | ok listed => simp [filesIn_flatMap_pruned, ihb, hgo, hx]
    · have hcut : reaches rules (folder ++ [name]) = false := by simp [reaches_snoc, hr]
      cases disk.list (root.dotted.append (folder ++ [name])) with
      | error e => simp [pruned, hcut, hr]
      | ok listed => simp [filesIn_flatMap_pruned, ihb, hcut, hr]
  | case3 folder name target rest ih => rw [ih, foldersIn]
  | case4 folder name bytes rest ih => rw [ih, foldersIn]

/-- The encounters of a walk are what its rules leave of those of the walk without rules. -/
theorem arrivalAt_pruned :
    arrivalAt root rules disk [] = (arrivalAt root [] disk []).flatMap (pruned rules) := by
  unfold arrivalAt
  cases disk.list (root.dotted.append []) with
  | error e => simp [pruned, reaches_nil]
  | ok entries => simp [filesIn_flatMap_pruned, foldersIn_flatMap_pruned, reaches_nil]

end Course

namespace Inspector

variable (ins : Inspector) (disk : Disk)

/-! ## Files -/

/-- What breaks a walk off does not depend on the rules. -/
theorem obstacle?_eq (ins' : Inspector) (root : Path) (xs : List Encounter) :
    ins.obstacle? root xs = ins'.obstacle? root xs := by
  induction xs with
  | nil => rfl
  | cons x xs ih =>
    cases x with
    | source place => exact ih
    | excluded place => exact ih
    | hidden e place => rfl
    | barred e place => rfl

/-- Behind encounters without an obstacle a walk goes on. -/
theorem sources_append (root : Path) {xs : List Encounter} (h : ins.obstacle? root xs = none)
    (ys : List Encounter) :
    sources (xs ++ ys) = sources xs ++ sources ys ∧
      ins.obstacle? root (xs ++ ys) = ins.obstacle? root ys := by
  induction xs with
  | nil => exact ⟨rfl, rfl⟩
  | cons x xs ih =>
    cases x with
    | source place =>
      obtain ⟨hsources, hobstacle⟩ := ih h
      exact ⟨congrArg (place :: ·) hsources, hobstacle⟩
    | excluded place => exact ih h
    | hidden e place => cases h
    | barred e place => cases h

/-- Without an obstacle, rules leave of the files those that they spare, and no obstacle. -/
theorem sources_flatMap_pruned (root : Path) {xs : List Encounter} (h : ins.obstacle? root xs = none) :
    sources (xs.flatMap (pruned ins.rules)) = (sources xs).filter (spares ins.rules) ∧
      ins.obstacle? root (xs.flatMap (pruned ins.rules)) = none := by
  induction xs with
  | nil => exact ⟨rfl, rfl⟩
  | cons x xs ih =>
    rw [List.flatMap_cons]
    cases x with
    | source place =>
      obtain ⟨hsources, hobstacle⟩ := ih h
      have hfirst : sources (pruned ins.rules (.source place)) = [place].filter (spares ins.rules) ∧
          ins.obstacle? root (pruned ins.rules (.source place)) = none := by
        by_cases hr : reaches ins.rules place.dropLast = true
        · by_cases hx : Exclude.excludes ins.rules (Walk.relative place) false = true
          · simp [pruned, spares, sources, obstacle?, hr, hx]
          · simp [pruned, spares, sources, obstacle?, hr, hx]
        · simp [pruned, spares, sources, obstacle?, hr]
      obtain ⟨happend, hnone⟩ := ins.sources_append root hfirst.2 (xs.flatMap (pruned ins.rules))
      rw [happend, hnone, hfirst.1, hsources, ← List.filter_append]
      exact ⟨rfl, hobstacle⟩
    | excluded place =>
      obtain ⟨hsources, hobstacle⟩ := ih h
      by_cases hr : reaches ins.rules place.dropLast = true
      · simp [pruned, hr, sources, obstacle?, hsources, hobstacle]
      · simp [pruned, hr, sources, hsources, hobstacle]
    | hidden e place => cases h
    | barred e place => cases h

/-- A walk that is broken off is so by the first encounter of a kind. -/
theorem exists_obstacle (root : Path) {xs : List Encounter} {f : Failure}
    (h : ins.obstacle? root xs = some f) :
    ∃ ys x zs, xs = ys ++ x :: zs ∧ ins.obstacle? root ys = none ∧ ins.obstacle? root [x] = some f := by
  induction xs with
  | nil => cases h
  | cons x xs ih =>
    cases x with
    | source place =>
      obtain ⟨ys, x, zs, rfl, hys, hx⟩ := ih h
      exact ⟨.source place :: ys, x, zs, rfl, hys, hx⟩
    | excluded place =>
      obtain ⟨ys, x, zs, rfl, hys, hx⟩ := ih h
      exact ⟨.excluded place :: ys, x, zs, rfl, hys, hx⟩
    | hidden e place => exact ⟨[], .hidden e place, xs, rfl, rfl, h⟩
    | barred e place => exact ⟨[], .barred e place, xs, rfl, rfl, h⟩

/-- That a failure says that a folder cannot be listed, or that a file in it cannot be looked at. -/
def BreaksOffIn (root : Path) (f : Failure) (folder : List String) : Prop :=
  ∃ e, f = .unreadable (.access e ((ins.listing root).listedPath folder).text) ∨
    ∃ place, folder = place.dropLast ∧ f = .unreadable (.access e (root.append place).text)

/-- An obstacle is in a folder, and is left by rules with which a walk gets to that folder. -/
theorem pruned_obstacle (root : Path) {x : Encounter} {f : Failure}
    (h : ins.obstacle? root [x] = some f) :
    (∀ zs, sources (x :: zs) = [] ∧ ins.obstacle? root (x :: zs) = some f) ∧
      ∃ folder, ins.BreaksOffIn root f folder ∧
        (reaches ins.rules folder = true → pruned ins.rules x = [x]) := by
  cases x with
  | source place => cases h
  | excluded place => cases h
  | hidden e place =>
    cases h
    refine ⟨fun _ => ⟨rfl, rfl⟩, place.dropLast, ⟨e, Or.inr ⟨place, rfl, rfl⟩⟩, fun hr => ?_⟩
    simp [pruned, hr]
  | barred e place =>
    cases h
    refine ⟨fun _ => ⟨rfl, rfl⟩, place, ⟨e, Or.inl rfl⟩, fun hr => ?_⟩
    simp [pruned, hr]

/-- The components of a path below a directory. -/
def below (root path : Path) : List String := path.parts.drop root.parts.length

theorem below_append (root : Path) (place : List String) : below root (root.append place) = place := by
  simp [below, Path.append]

/-- The files of a listing that the rules of an inspector spare. -/
def spared (root : Path) (files : List Path) : List Path :=
  files.filter fun path => spares ins.rules (below root path)

theorem spared_map_append (root : Path) (places : List (List String)) :
    ins.spared root (places.map root.append) = (places.filter (spares ins.rules)).map root.append := by
  have hbelow : (fun path => spares ins.rules (below root path)) ∘ root.append = spares ins.rules :=
    funext fun place => congrArg _ (below_append root place)
  rw [spared, List.filter_map, hbelow]

/-! ## A directory by a way round -/

/-- A directory with a folder of generated files and a folder with a source file. -/
def detourDisk : Disk where
  base := "/work"
  root := [("x", .folder [("build_generated", .folder []), ("lib", .folder [("f.dart", .file [])])])]

/-- A path behind `n` ways into the folder `x` and back. -/
def detour (n : Nat) (path : List String) : Path := ⟨"", (List.replicate n ["x", ".."]).flatten ++ path⟩

theorem detour_append (n : Nat) (place : List String) :
    (detour n ["x"]).append place = detour n ("x" :: place) := by
  simp [detour, Path.append]

/-- The text of `n` ways into the folder `x` and back. -/
def detourText (n : Nat) : String := String.join (List.replicate n "x/../")

theorem detourText_succ (n : Nat) : detourText (n + 1) = "x/../" ++ detourText n := by
  simp [detourText, List.replicate_succ]

theorem names_detourText (n : Nat) (s : String) :
    Path.names (detourText n ++ s) = (List.replicate n ["x", ".."]).flatten ++ Path.names s := by
  induction n with
  | zero => simp [detourText]
  | succ n ih =>
    have hx : "x/../".toList = ['x', '/', '.', '.', '/'] := by decide
    have hstep : ∀ cs, (Path.pieces ('x' :: '/' :: '.' :: '.' :: '/' :: cs)).map String.ofList
        = "x" :: ".." :: (Path.pieces cs).map String.ofList := fun cs => rfl
    rw [detourText_succ, String.append_assoc, Path.names, String.toList_append, hx]
    simp only [List.cons_append, List.nil_append, hstep, List.replicate_succ, List.flatten_cons]
    exact congrArg (fun l => "x" :: ".." :: l) ih

theorem ofString_detour (n : Nat) : Path.ofString (detourText n ++ "x") = detour n ["x"] := by
  have hanchor : Path.anchorOf (detourText n ++ "x") = "" := by
    cases n with
    | zero => rfl
    | succ n =>
      have hx : "x/../".toList = ['x', '/', '.', '.', '/'] := by decide
      rw [detourText_succ, Path.anchorOf, String.append_assoc, String.toList_append, hx]
      rfl
  have hnames : Path.names "x" = ["x"] := by decide
  have hkeep : ∀ p ∈ (List.replicate n ["x", ".."]).flatten ++ ["x"], (p != "" && p != ".") = true := by
    intro p hp
    simp only [List.mem_append, List.mem_flatten, List.mem_replicate] at hp
    rcases hp with ⟨l, ⟨_, rfl⟩, hp⟩ | hp
    · rcases List.mem_pair.mp hp with rfl | rfl <;> decide
    · rcases List.mem_singleton.mp hp with rfl
      decide
  rw [Path.ofString, hanchor, Path.components, names_detourText, hnames, List.filter_eq_self.mpr hkeep]
  rfl

theorem text_detour (n : Nat) {path : List String} (h : path ≠ []) :
    (detour n path).text = detourText n ++ String.intercalate "/" path := by
  have hjoin : ∀ n, String.intercalate "/" ((List.replicate n ["x", ".."]).flatten ++ path)
      = detourText n ++ String.intercalate "/" path := by
    intro n
    induction n with
    | zero => simp [detourText]
    | succ n ih =>
      rw [List.replicate_succ, List.flatten_cons, List.append_assoc, detourText_succ,
        String.append_assoc, ← ih]
      simp only [List.cons_append, List.nil_append]
      rw [String.intercalate_cons_cons, String.intercalate_cons_of_ne_nil (by simp [h])]
      simp only [← String.append_assoc]
      rfl
  simp [Path.text, detour, h, hjoin]


theorem textError?_detour (n : Nat) {path : List String} (h : path ≠ [])
    (hnull : '\x00' ∉ (String.intercalate "/" path).toList) :
    Disk.textError? (detour n path).text =
      if 4096 ≤ 5 * n + (String.intercalate "/" path).utf8ByteSize then some .nameTooLong else none := by
  have hx : '\x00' ∉ "x/../".toList := by decide
  have hmem : ¬((detourText n ++ String.intercalate "/" path).toList.contains '\x00') = true := by
    simp only [detourText, String.toList_append, String.toList_join, List.contains_eq_mem,
      List.mem_append, List.mem_flatMap, List.mem_replicate, decide_eq_true_eq]
    rintro (⟨s, ⟨_, rfl⟩, hs⟩ | hs)
    · exact hx hs
    · exact hnull hs
  have hsize : ∀ n, (detourText n).utf8ByteSize = 5 * n := by
    intro n
    induction n with
    | zero => rfl
    | succ n ih =>
      have hx : "x/../".utf8ByteSize = 5 := by decide
      rw [detourText_succ, String.utf8ByteSize_append, ih, hx]
      omega
  rw [Disk.textError?, text_detour n h, if_neg hmem, String.utf8ByteSize_append, hsize]
  rfl

theorem walkTo_detour (follow : Bool) (hops n : Nat) (path : List String) :
    Disk.walkTo detourDisk.root follow hops [] (detour n path).parts
      = Disk.walkTo detourDisk.root follow hops [] path := by
  have hat : detourDisk.root.at? ["x"].reverse
      = some (.folder [("build_generated", .folder []), ("lib", .folder [("f.dart", .file [])])]) := rfl
  induction n with
  | zero => rfl
  | succ n ih =>
    have hparts : (detour (n + 1) path).parts = "x" :: ".." :: (detour n path).parts := by
      simp [detour, List.replicate_succ]
    rw [hparts,
      Disk.walkTo_folder _ (by decide) (by decide) (by decide) hat, Disk.walkTo_up _ (by decide) (by decide), ih]

theorem find_detour (follow : Bool) (n : Nat) {path : List String} (h : path ≠ [])
    (hnull : '\x00' ∉ (String.intercalate "/" path).toList) :
    detourDisk.find follow (detour n path) =
      if 4096 ≤ 5 * n + (String.intercalate "/" path).utf8ByteSize then .error .nameTooLong
      else (Disk.walkTo detourDisk.root follow Disk.maxLinks [] path).map (·.2) := by
  rw [Disk.find, textError?_detour n h hnull]
  split
  · rename_i e he
    split at he
    · rename_i hlong
      cases he
      rw [if_pos hlong]
    · cases he
  · rename_i he
    split at he
    · cases he
    · rename_i hshort
      rw [if_neg hshort]
      show Except.map _ (Disk.walkTo _ _ _ _ _) = _
      rw [walkTo_detour]

/-- What is found at a short path of the directory, however long the way round is. -/
theorem find_detour_short {follow : Bool} {n : Nat} (k : Nat) {path : List String}
    (place : List String) {e : Entry} (h : path ≠ [])
    (hnull : '\x00' ∉ (String.intercalate "/" path).toList)
    (hsize : (String.intercalate "/" path).utf8ByteSize = k) (hn : 5 * n + k < 4096)
    (hw : Disk.walkTo detourDisk.root follow Disk.maxLinks [] path = .ok (place, e)) :
    detourDisk.find follow (detour n path) = .ok e := by
  rw [find_detour follow n h hnull, hsize, if_neg (by omega), hw]
  rfl

/-- The directory itself, found round about. -/
theorem find_detour_root {n : Nat} (hn : 5 * n + 12 < 4096) :
    detourDisk.find true (detour n ["x"])
      = .ok (.folder [("build_generated", .folder []), ("lib", .folder [("f.dart", .file [])])]) := by
  refine find_detour_short 1 ["x"] (by simp) (by decide) (by decide) (by omega) ?_
  rw [Disk.walkTo_folder _ (by decide) (by decide) (by decide) rfl]
  exact Disk.walkTo_nil rfl

/-- The folder of generated files, which the longest of the paths leads to. -/
theorem find_detour_generated (n : Nat) :
    detourDisk.find true (detour n ["x", "build_generated"])
      = if 4096 ≤ 5 * n + 17 then .error .nameTooLong else .ok (.folder []) := by
  by_cases hlong : 4096 ≤ 5 * n + 17
  · have hsize : (String.intercalate "/" ["x", "build_generated"]).utf8ByteSize = 17 := by decide
    rw [find_detour true n (by simp) (by decide), hsize, if_pos hlong, if_pos hlong]
  · rw [if_neg hlong]
    refine find_detour_short 17 ["build_generated", "x"] (by simp) (by decide) (by decide) (by omega) ?_
    rw [Disk.walkTo_folder _ (by decide) (by decide) (by decide) rfl,
      Disk.walkTo_folder _ (by decide) (by decide) (by decide) rfl]
    exact Disk.walkTo_nil rfl

theorem list_of_find {disk : Disk} {p : Path} {entries : Folder}
    (h : disk.find true p = .ok (.folder entries)) :
    disk.list p = .ok entries := by
  rw [Disk.list, Disk.reach, h]

/-- What a walk of the directory comes upon, where the paths of all but the generated files are
short enough. -/
theorem arrivalAt_detour (rules : List Exclude.Rule) {n : Nat} (hn : 5 * n + 12 < 4096) :
    arrivalAt (detour n ["x"]) rules detourDisk [] =
      (if Exclude.excludes rules "build_generated" true then []
        else if 4096 ≤ 5 * n + 17 then [.barred .nameTooLong ["build_generated"]] else []) ++
      (if Exclude.excludes rules "lib" true then []
        else if Exclude.excludes rules "lib/f.dart" false then [.excluded ["lib", "f.dart"]]
        else [.source ["lib", "f.dart"]]) := by
  have hroot : detourDisk.list (detour n ["x"])
      = .ok [("build_generated", .folder []), ("lib", .folder [("f.dart", .file [])])] :=
    list_of_find (find_detour_root hn)
  have hlib : detourDisk.list (detour n ["x", "lib"]) = .ok [("f.dart", .file [])] := by
    apply list_of_find
    refine find_detour_short 5 ["lib", "x"] (by simp) (by decide) (by decide) (by omega) ?_
    rw [Disk.walkTo_folder _ (by decide) (by decide) (by decide) rfl,
      Disk.walkTo_folder _ (by decide) (by decide) (by decide) rfl]
    exact Disk.walkTo_nil rfl
  have hfile : detourDisk.find false (detour n ["x", "lib", "f.dart"]) = .ok (.file []) := by
    refine find_detour_short 12 ["f.dart", "lib", "x"] (by simp) (by decide) (by decide) (by omega) ?_
    rw [Disk.walkTo_folder _ (by decide) (by decide) (by decide) rfl,
      Disk.walkTo_folder _ (by decide) (by decide) (by decide) rfl]
    exact Disk.walkTo_lastFile (by decide) (by decide) (by decide) rfl
  have hgen : detourDisk.list (detour n ["x", "build_generated"])
      = if 4096 ≤ 5 * n + 17 then .error .nameTooLong else .ok [] := by
    rw [Disk.list, Disk.reach, find_detour_generated]
    by_cases hlong : 4096 ≤ 5 * n + 17
    · rw [if_pos hlong, if_pos hlong]
    · rw [if_neg hlong, if_neg hlong]
  have hsource : Walk.isSource "f.dart" = true := by decide
  have hrelative : Walk.relative ["lib", "f.dart"] = "lib/f.dart" := by decide
  have hprobe : detourDisk.probeLink (detour n ["x", "lib", "f.dart"]) = .ok false := by
    rw [Disk.probeLink, hfile]
  have hfiles : filesIn (detour n ["x"]) rules detourDisk ["lib"] [("f.dart", .file [])] =
      if Exclude.excludes rules "lib/f.dart" false then [.excluded ["lib", "f.dart"]]
        else [.source ["lib", "f.dart"]] := by
    simp [filesIn, countsAsFolder, fileAt, hsource, detour_append, hprobe, hrelative]
  have hone : ∀ name, Walk.relative [name] = name := fun name => String.intercalate_singleton
  have hdotted : (detour n ["x"]).dotted = detour n ["x"] := Path.dotted_of_parts (by simp [detour])
  unfold arrivalAt
  simp only [hdotted, detour_append, hroot]
  rw [show filesIn (detour n ["x"]) rules detourDisk [] _ = [] from rfl, foldersIn, foldersIn,
    List.nil_append]
  simp only [List.nil_append, hdotted, detour_append, hone, hlib, hgen, hfiles, foldersIn, List.append_nil]
  by_cases hlong : 4096 ≤ 5 * n + 17
  · simp only [hlong, ↓reduceIte]
  · simp only [hlong, ↓reduceIte]
    rfl

/-- An inspector that finds nothing in a source, with these patterns. -/
def detourInspector (patterns : List String) : Inspector :=
  ⟨.standard, Exclude.rulesOf patterns, fun _ => {}⟩

theorem wellFormed_detourDisk : detourDisk.root.WellFormed := by
  simp [detourDisk, Disk.Folder.WellFormed, Disk.Entry.WellFormed, Disk.IsName]

theorem isFolder_detour {n : Nat} (hn : 5 * n + 12 < 4096) :
    detourDisk.isFolder (Path.ofString (detourText n ++ "x")) = true := by
  rw [ofString_detour, Disk.isFolder, Disk.reach, find_detour_root hn]

/-! ## Pruning and filtering -/

/-- **Pruning is filtering.** Let `all` be the files of a directory without rules. If nothing breaks
the walk through them off, the scan for files with rules yields those of them that the rules spare,
in the same order, and ends. If a failure does, it yields at least those, and exactly those and the
same failure, if the walk with rules gets to the folder where it arises. -/
theorem drain_eq_filter (hd : disk.root.WellFormed) (root : String)
    (hroot : disk.isFolder (Path.ofString root) = true) :
    let plain : Inspector := { ins with rules := [] }
    let all := plain.sourceFiles disk root
    let kept := (ins.spared (Path.ofString root) all.files).map fun path => Item.path path.text
    ((plain.drain disk (.directory root true)).items = all.files.map (fun path => .path path.text) ∧
        (plain.drain disk (.directory root true)).failure = all.failure) ∧
      (all.failure = none →
        (ins.drain disk (.directory root true)).items = kept ∧
          (ins.drain disk (.directory root true)).failure = none) ∧
      ∀ f, all.failure = some f → kept <+: (ins.drain disk (.directory root true)).items ∧
        ∃ folder, ins.BreaksOffIn (Path.ofString root) f folder ∧
          (reaches ins.rules folder = true → (ins.drain disk (.directory root true)).items = kept ∧
            (ins.drain disk (.directory root true)).failure = some f) := by
  intro plain all kept
  let xs := arrivalAt (Path.ofString root) [] disk []
  obtain ⟨hitems, hfailure⟩ := ins.drain_files disk hd hroot
  have hall : all =
      ⟨(sources xs).map (Path.ofString root).append, ins.obstacle? (Path.ofString root) xs⟩ := by
    rw [ins.obstacle?_eq plain]
    exact plain.sourceFiles_eq disk hd root
  have hkept : kept = ((sources xs).filter (spares ins.rules)).map fun place =>
      Item.path ((Path.ofString root).append place).text := by
    simp only [kept, hall, spared_map_append, List.map_map]
    rfl
  rw [sourceFiles_eq ins disk hd, arrivalAt_pruned] at hitems hfailure
  simp only [List.map_map] at hitems
  refine ⟨plain.drain_files disk hd hroot, fun hnone => ?_, fun f hsome => ?_⟩
  · rw [hall] at hnone
    obtain ⟨hsources, hobstacle⟩ := ins.sources_flatMap_pruned (Path.ofString root) hnone
    rw [hitems, hfailure, hkept, hsources]
    exact ⟨rfl, hobstacle⟩
  · rw [hall] at hsome
    obtain ⟨ys, x, zs, hsplit, hys, hx⟩ := ins.exists_obstacle (Path.ofString root) hsome
    obtain ⟨hstop, folder, hfolder, hleft⟩ := ins.pruned_obstacle (Path.ofString root) hx
    obtain ⟨hsources, hobstacle⟩ := ins.sources_flatMap_pruned (Path.ofString root) hys
    -- the files before the obstacle are all there are without rules, and come first with rules
    have hbefore : sources xs = sources ys := by
      rw [show xs = ys ++ x :: zs from hsplit, (ins.sources_append _ hys _).1, (hstop zs).1,
        List.append_nil]
    have hafter : xs.flatMap (pruned ins.rules)
        = ys.flatMap (pruned ins.rules) ++ (pruned ins.rules x ++ zs.flatMap (pruned ins.rules)) := by
      rw [show xs = ys ++ x :: zs from hsplit, List.flatMap_append, List.flatMap_cons]
    obtain ⟨happend, hrest⟩ := ins.sources_append (Path.ofString root) hobstacle
      (pruned ins.rules x ++ zs.flatMap (pruned ins.rules))
    rw [show arrivalAt (Path.ofString root) [] disk [] = xs from rfl, hafter] at hitems hfailure
    rw [happend, hsources, ← hbefore, List.map_append] at hitems
    rw [hrest] at hfailure
    rw [hitems, hfailure, hkept]
    refine ⟨List.prefix_append _ _, folder, hfolder, fun hr => ?_⟩
    obtain ⟨hnil, hsame⟩ := hstop (zs.flatMap (pruned ins.rules))
    rw [hleft hr, List.singleton_append, hnil, hsame]
    exact ⟨List.append_nil _, rfl⟩

theorem drain_eq_filter_sample :
    (detourDisk.root.WellFormed ∧ detourDisk.isFolder (Path.ofString (detourText 0 ++ "x")) = true) ∧
      ((detourInspector ["build*/"]).drain detourDisk (.directory (detourText 0 ++ "x") true)).items =
        ((detourInspector ["build*/"]).spared (Path.ofString (detourText 0 ++ "x"))
          ((detourInspector []).sourceFiles detourDisk (detourText 0 ++ "x")).files).map
            fun path => .path path.text := by
  have hroot := isFolder_detour (show 5 * 0 + 12 < 4096 by decide)
  have hnone : ((detourInspector []).sourceFiles detourDisk (detourText 0 ++ "x")).failure = none := by
    rw [sourceFiles_eq _ _ wellFormed_detourDisk, ofString_detour, arrivalAt_detour _ (by decide)]
    rfl
  exact ⟨⟨wellFormed_detourDisk, hroot⟩,
    ((drain_eq_filter (detourInspector ["build*/"]) detourDisk wellFormed_detourDisk _ hroot).2.1 hnone).1⟩

/-- A folder that cannot be listed breaks the walk without rules off, but not the walk that does not
enter it. -/
theorem pruned_walk_passes_obstacle :
    ((detourInspector []).drain detourDisk (.directory (detourText 816 ++ "x") true)).items = [] ∧
      ((detourInspector ["build*/"]).drain detourDisk (.directory (detourText 816 ++ "x") true)).items
        = [.path (detourText 816 ++ "x/lib/f.dart")] := by
  have hroot := isFolder_detour (show 5 * 816 + 12 < 4096 by decide)
  have hpath : ((detour 816 ["x"]).append ["lib", "f.dart"]).text = detourText 816 ++ "x/lib/f.dart" := by
    rw [detour_append, text_detour 816 (by simp)]
    rfl
  have hbuild : Exclude.excludes (Exclude.rulesOf ["build*/"]) "build_generated" true = true := by
    decide +kernel
  have hlib : Exclude.excludes (Exclude.rulesOf ["build*/"]) "lib" true = false := by decide +kernel
  have hfile : Exclude.excludes (Exclude.rulesOf ["build*/"]) "lib/f.dart" false = false := by
    decide +kernel
  rw [((detourInspector []).drain_files detourDisk wellFormed_detourDisk hroot).1,
    ((detourInspector ["build*/"]).drain_files detourDisk wellFormed_detourDisk hroot).1,
    sourceFiles_eq _ _ wellFormed_detourDisk, sourceFiles_eq _ _ wellFormed_detourDisk, ofString_detour,
    arrivalAt_detour _ (by decide), arrivalAt_detour _ (by decide)]
  constructor
  · rfl
  · simp [detourInspector, hbuild, hlib, hfile, sources, hpath]

end Inspector

end DartSurvey.Scan
