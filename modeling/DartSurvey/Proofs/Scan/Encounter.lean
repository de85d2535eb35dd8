import DartSurvey.Proofs.Disk.Below
import DartSurvey.Scan.Walk

/-!
# What a walk comes upon

The course of a walk does not depend on its visitor: on a disk that stays as it is, it is a fixed
list of `Encounter`s, and the visitor only decides where in the list to stop.

- `filesIn`, `foldersIn`: the encounters of the files and of the subfolders of a folder, by
  recursion on the tree; `Task.encounters`: those of work that is left.
- `Walk.feed`: the visitor's run over a list of encounters.
- Tasks stand for the encounters of what they are tasks for (`encounters_fileTasks`,
  `encounters_folderTasks`), so a walk is its visitor's run over its encounters, and a walk that
  stopped goes on with the encounters that were left (`arrive_eq_feed`, `resume_eq_feed`).
- How a walk ends does not depend on what its tasks stand for, so this much holds of any tree, be it
  well formed or not (`arrive_end`).
-/

namespace DartSurvey.Scan

open Disk (AccessError Entry Folder Path)

/-- What a walk comes upon at a place below the walked directory. -/
inductive Encounter where
  /-- A file to be visited. -/
  | source (place : List String)
  /-- A file that a rule keeps out. -/
  | excluded (place : List String)
  /-- A file that cannot be looked at. -/
  | hidden (e : AccessError) (place : List String)
  /-- A folder that cannot be listed. -/
  | barred (e : AccessError) (place : List String)
deriving DecidableEq

section Course

variable (root : Path) (rules : List Exclude.Rule) (disk : Disk)

/-- The encounter at a file. -/
def fileAt (folder : List String) (name : String) : List Encounter :=
  if !Walk.isSource name then []
  else
    match disk.probeLink (root.append (folder ++ [name])) with
    | .error e => [.hidden e (folder ++ [name])]
    | .ok true => []
    | .ok false =>
      if Exclude.excludes rules (Walk.relative (folder ++ [name])) false then [.excluded (folder ++ [name])]
      else [.source (folder ++ [name])]

/-- Whether an entry counts as a folder. -/
def countsAsFolder (place : List String) : Entry → Bool
  | .folder _ => true
  | .link _ => disk.isFolder (root.dotted.append place)
  | .file _ => false

/-- The encounters at the files of a folder. -/
def filesIn (folder : List String) (entries : Folder) : List Encounter :=
  (entries.filter fun e => !countsAsFolder root disk (folder ++ [e.1]) e.2).flatMap fun e =>
    fileAt root rules disk folder e.1

/-- The encounters below the subfolders of a folder. -/
def foldersIn (folder : List String) : Folder → List Encounter
  | [] => []
  | (name, .folder entries) :: rest =>
    (if Exclude.excludes rules (Walk.relative (folder ++ [name])) true then []
      else
        match disk.list (root.dotted.append (folder ++ [name])) with
        | .error e => [.barred e (folder ++ [name])]
        | .ok _ => filesIn root rules disk (folder ++ [name]) entries ++ foldersIn (folder ++ [name]) entries)
      ++ foldersIn folder rest
  | (_, .link _) :: rest => foldersIn folder rest
  | (_, .file _) :: rest => foldersIn folder rest

/-- The encounters from the arrival at a folder on. -/
def arrivalAt (folder : List String) : List Encounter :=
  match disk.list (root.dotted.append folder) with
  | .error e => [.barred e folder]
  | .ok entries => filesIn root rules disk folder entries ++ foldersIn root rules disk folder entries

theorem filesIn_cons (folder : List String) (name : String) (e : Entry) (rest : Folder) :
    filesIn root rules disk folder ((name, e) :: rest) =
      (if countsAsFolder root disk (folder ++ [name]) e then [] else fileAt root rules disk folder name)
        ++ filesIn root rules disk folder rest := by
  by_cases h : countsAsFolder root disk (folder ++ [name]) e = true <;> simp [filesIn, h]

/-- The encounters of a task. -/
def Task.encounters : Task → List Encounter
  | .file place name => fileAt root rules disk place name
  | .folder place => if disk.isLink (root.dotted.append place) then [] else arrivalAt root rules disk place

end Course

/-! ## Visitors -/

namespace Walk

variable {σ ρ : Type} (w : Walk σ ρ) (disk : Disk)

/-- What a visitor does at an encounter. -/
def meet (s : σ) : Encounter → Step σ ρ
  | .source place => w.visit s (w.pathOf place)
  | .excluded place => .goOn (w.excluded s (relative place))
  | .hidden e place => .stop s (w.fail e (w.pathOf place).text)
  | .barred e place => .stop s (w.fail e (w.listedPath place).text)

/-- A visitor's run over encounters: the last state, and the result with the encounters left if it
stopped. -/
def feed (s : σ) : List Encounter → σ × Option (ρ × List Encounter)
  | [] => (s, none)
  | x :: xs =>
    match w.meet s x with
    | .goOn s => feed s xs
    | .stop s r => (s, some (r, xs))

/-- Where a traversal ended, with the encounters that are left in place of the tasks. -/
def outcome : Found σ ρ → σ × Option (ρ × List Encounter)
  | .exhausted s => (s, none)
  | .stopped s r left => (s, some (r, left.flatMap (Task.encounters w.root w.rules disk)))

/-- A run over two lists goes through the first and, unless it stops there, on through the
second. -/
theorem feed_append (s : σ) (xs ys : List Encounter) :
    w.feed s (xs ++ ys) = match w.feed s xs with
      | (s, none) => w.feed s ys
      | (s, some (r, rest)) => (s, some (r, rest ++ ys)) := by
  induction xs generalizing s with
  | nil => rfl
  | cons x xs ih =>
    simp only [List.cons_append, feed]
    cases w.meet s x with
    | goOn s => exact ih s
    | stop s r => rfl

theorem isFolderEntry_eq (folder : List String) (name : String) (e : Entry) :
    w.isFolderEntry disk folder name e = countsAsFolder w.root disk (folder ++ [name]) e := by
  cases e <;> rfl

/-! ## Tasks stand for encounters -/

theorem encounters_fileTasks (folder : List String) (entries : Folder) :
    (w.fileTasks disk folder entries).flatMap (Task.encounters w.root w.rules disk)
      = filesIn w.root w.rules disk folder entries := by
  simp only [fileTasks, filesIn, isFolderEntry_eq, List.flatMap_map, Task.encounters]

/-- A folder that is listed where it stands gives the encounters of its entries. -/
theorem arrivalAt_folder (hd : disk.root.WellFormed) {folder : List String} {listed es : Folder}
    {name : String}
    (hl : disk.reach (w.root.dotted.append folder) = .ok (.folder listed)) (h : (name, .folder es) ∈ listed) :
    arrivalAt w.root w.rules disk (folder ++ [name]) =
      match disk.list (w.root.dotted.append (folder ++ [name])) with
      | .error e => [.barred e (folder ++ [name])]
      | .ok _ =>
        filesIn w.root w.rules disk (folder ++ [name]) es ++
          foldersIn w.root w.rules disk (folder ++ [name]) es := by
  rcases Disk.list_folder hd hl h with he | ⟨err, he⟩
  · simp only [arrivalAt, Path.append_snoc, he]
  · simp only [arrivalAt, Path.append_snoc, he]

theorem folderTasks_cons (folder : List String) (name : String) (e : Entry) (rest : Folder) :
    w.folderTasks disk folder ((name, e) :: rest) =
      (if countsAsFolder w.root disk (folder ++ [name]) e && !w.prunes (folder ++ [name])
        then [.folder (folder ++ [name])] else []) ++ w.folderTasks disk folder rest := by
  simp only [folderTasks, isFolderEntry_eq, List.filter_cons]
  split <;> rfl

theorem encounters_folderTasks (hd : disk.root.WellFormed) {folder : List String} {listed : Folder}
    (hl : disk.reach (w.root.dotted.append folder) = .ok (.folder listed)) :
    ∀ {entries : Folder}, (∀ x ∈ entries, x ∈ listed) →
      (w.folderTasks disk folder entries).flatMap (Task.encounters w.root w.rules disk)
        = foldersIn w.root w.rules disk folder entries
  | [], _ => by simp [folderTasks, foldersIn]
  | (name, e) :: rest, hsub => by
    have hrest : ∀ x ∈ rest, x ∈ listed := fun x hx => hsub x (List.mem_cons_of_mem _ hx)
    have ih := encounters_folderTasks hd hl hrest
    have hmem := hsub (name, e) List.mem_cons_self
    rw [folderTasks_cons, List.flatMap_append, ih]
    cases e with
    | file bytes => simp [countsAsFolder, foldersIn]
    | folder es =>
      rw [foldersIn]
      congr 1
      by_cases hx : w.prunes (folder ++ [name]) = true
      · simp [hx, show Exclude.excludes w.rules (relative (folder ++ [name])) true = true from hx]
      · have hlink := Disk.isLink_folder hd hl hmem
        rw [← Path.append_snoc] at hlink
        simp only [countsAsFolder, hx, Bool.not_false, Bool.and_self, ↓reduceIte, List.flatMap_cons,
          List.flatMap_nil, List.append_nil, Task.encounters, hlink, Bool.false_eq_true,
          arrivalAt_folder w disk hd hl hmem,
          show Exclude.excludes w.rules (relative (folder ++ [name])) true = false by
            simpa [prunes] using hx]
    | link target =>
      rw [foldersIn]
      by_cases hf : disk.isFolder (w.root.dotted.append (folder ++ [name])) = true
      · -- a link that leads to a folder is a task, but nothing is done for it
        have hlink : disk.isLink (w.root.dotted.append (folder ++ [name])) = true := by
          rw [Path.append_snoc] at hf ⊢
          exact Disk.isLink_link hd hl hmem hf
        split <;> simp [Task.encounters, hlink]
      · simp [countsAsFolder, hf]

/-! ## Walks are runs over their encounters -/

theorem visitFile_eq_feed (folder : List String) (name : String) (s : σ) :
    w.feed s (fileAt w.root w.rules disk folder name) =
      match w.visitFile disk folder name s with
      | .goOn s => (s, none)
      | .stop s r => (s, some (r, [])) := by
  unfold fileAt visitFile
  split
  · rfl
  · simp only [pathOf]
    cases disk.probeLink (w.root.append (folder ++ [name])) with
    | error e => rfl
    | ok link =>
      cases link with
      | true => rfl
      | false =>
        by_cases hx : Exclude.excludes w.rules (relative (folder ++ [name])) false = true
        · simp [hx, feed, meet]
        · simp only [hx, Bool.false_eq_true, ↓reduceIte, feed, meet, pathOf]

theorem visitFiles_eq_feed (folder : List String) (entries : Folder) (s : σ) :
    w.outcome disk (w.visitFiles disk folder s entries)
      = w.feed s (filesIn w.root w.rules disk folder entries) := by
  induction entries generalizing s with
  | nil => rfl
  | cons x rest ih =>
    obtain ⟨name, e⟩ := x
    simp only [visitFiles, isFolderEntry_eq]
    rw [filesIn_cons]
    by_cases hf : countsAsFolder w.root disk (folder ++ [name]) e = true
    · rw [if_pos hf, if_pos hf]
      exact ih s
    · rw [if_neg hf, if_neg hf, feed_append, visitFile_eq_feed]
      cases w.visitFile disk folder name s with
      | goOn s => exact ih s
      | stop s r => simp only [outcome, encounters_fileTasks, List.nil_append]

theorem foldersIn_pruned {folder : List String} {name : String} (es rest : Folder)
    (hx : w.prunes (folder ++ [name]) = true) :
    foldersIn w.root w.rules disk folder ((name, .folder es) :: rest)
      = foldersIn w.root w.rules disk folder rest := by
  rw [foldersIn, if_pos (by exact hx), List.nil_append]

theorem foldersIn_barred {folder : List String} {name : String} {e : AccessError} (es rest : Folder)
    (hx : ¬w.prunes (folder ++ [name]) = true) (he : disk.list (w.listedPath (folder ++ [name])) = .error e) :
    foldersIn w.root w.rules disk folder ((name, .folder es) :: rest)
      = .barred e (folder ++ [name]) :: foldersIn w.root w.rules disk folder rest := by
  simp only [listedPath] at he
  rw [foldersIn, if_neg (by exact hx), he, List.singleton_append]

theorem foldersIn_entered {folder : List String} {name : String} {listed : Folder} (es rest : Folder)
    (hx : ¬w.prunes (folder ++ [name]) = true) (he : disk.list (w.listedPath (folder ++ [name])) = .ok listed) :
    foldersIn w.root w.rules disk folder ((name, .folder es) :: rest) =
      filesIn w.root w.rules disk (folder ++ [name]) es ++
        (foldersIn w.root w.rules disk (folder ++ [name]) es ++
          foldersIn w.root w.rules disk folder rest) := by
  simp only [listedPath] at he
  rw [foldersIn, if_neg (by exact hx), he, List.append_assoc]

/-- A folder that can be listed is reached as it is listed. -/
theorem reach_of_list {p : Path} {listed : Folder} (h : disk.list p = .ok listed) :
    disk.reach p = .ok (.folder listed) := by
  unfold Disk.list at h
  split at h
  · rename_i hr
    cases h
    exact hr
  all_goals cases h

/-- A folder of a listing that can be listed is reached as it stands in the listing. -/
theorem reach_folder (hd : disk.root.WellFormed) {folder : List String} {listed listed' es : Folder}
    {name : String}
    (hl : disk.reach (w.root.dotted.append folder) = .ok (.folder listed)) (h : (name, .folder es) ∈ listed)
    (he : disk.list (w.listedPath (folder ++ [name])) = .ok listed') :
    disk.reach (w.root.dotted.append (folder ++ [name])) = .ok (.folder es) := by
  simp only [listedPath] at he
  rcases Disk.list_folder hd hl h with h' | ⟨err, h'⟩
  · exact reach_of_list disk (by rw [Path.append_snoc]; exact h')
  · rw [Path.append_snoc, h'] at he
    cases he

/-- Going through the subfolders of a listed folder. -/
theorem enterFolders_eq_feed (hd : disk.root.WellFormed) {folder : List String} {listed : Folder}
    (hl : disk.reach (w.root.dotted.append folder) = .ok (.folder listed)) (entries : Folder)
    (hsub : ∀ x ∈ entries, x ∈ listed) (s : σ) :
    w.outcome disk (w.enterFolders disk folder s entries)
      = w.feed s (foldersIn w.root w.rules disk folder entries) := by
  fun_induction enterFolders w disk folder s entries generalizing listed with
  | case1 => simp [outcome, foldersIn, feed]
  | case2 folder s name es rest hx ih =>
    rw [foldersIn_pruned w disk es rest hx, ih hl (fun x h => hsub x (List.mem_cons_of_mem _ h))]
  | case3 folder s name es rest hx e he =>
    have hrest := encounters_folderTasks w disk hd hl (fun x h => hsub x (List.mem_cons_of_mem _ h))
    rw [foldersIn_barred w disk es rest hx he]
    simp only [outcome, hrest, feed, meet]
  | case4 folder s name es rest hx _ he s' r left hv =>
    have hrest := encounters_folderTasks w disk hd hl (fun x h => hsub x (List.mem_cons_of_mem _ h))
    have hl' := reach_folder w disk hd hl (hsub _ List.mem_cons_self) he
    have hbelow := encounters_folderTasks w disk hd hl' (fun x h => h)
    rw [foldersIn_entered w disk es rest hx he, feed_append, ← visitFiles_eq_feed, hv]
    simp only [outcome, List.flatMap_append, List.append_assoc, hrest, hbelow]
  | case5 folder s name es rest hx _ he s' hv s'' r left hb ih =>
    have hrest := encounters_folderTasks w disk hd hl (fun x h => hsub x (List.mem_cons_of_mem _ h))
    have hl' := reach_folder w disk hd hl (hsub _ List.mem_cons_self) he
    have hbelow := ih hl' (fun x h => h)
    rw [foldersIn_entered w disk es rest hx he, feed_append, ← visitFiles_eq_feed, hv]
    simp only [outcome, feed_append]
    rw [← hbelow, hb]
    simp only [outcome, List.flatMap_append, hrest]
  | case6 folder s name es rest hx _ he s' hv s'' hb ihb ihr =>
    have hl' := reach_folder w disk hd hl (hsub _ List.mem_cons_self) he
    have hbelow := ihb hl' (fun x h => h)
    rw [foldersIn_entered w disk es rest hx he, feed_append, ← visitFiles_eq_feed, hv]
    simp only [outcome, feed_append]
    rw [← hbelow, hb]
    exact ihr hl (fun x h => hsub x (List.mem_cons_of_mem _ h))
  | case7 folder s x rest hx ih =>
    rw [ih hl (fun x h => hsub x (List.mem_cons_of_mem _ h))]
    obtain ⟨name, e⟩ := x
    cases e with
    | folder es => exact absurd rfl (hx name es)
    | file bytes => rw [foldersIn]
    | link target => rw [foldersIn]

/-- A walk that arrives at a folder runs over the encounters from there on. -/
theorem arrive_eq_feed (hd : disk.root.WellFormed) (folder : List String) (s : σ) :
    w.outcome disk (w.arrive disk folder s) = w.feed s (arrivalAt w.root w.rules disk folder) := by
  unfold arrive arrivalAt
  simp only [listedPath]
  cases hl : disk.list (w.root.dotted.append folder) with
  | error e => rfl
  | ok entries =>
    have hr := reach_of_list disk hl
    simp only [enter]
    rw [feed_append, ← visitFiles_eq_feed]
    cases w.visitFiles disk folder s entries with
    | stopped s r left =>
      simp only [outcome, List.flatMap_append, encounters_folderTasks w disk hd hr (fun x h => h)]
    | exhausted s => exact enterFolders_eq_feed w disk hd hr entries (fun x h => h) s

/-- Going on with the work that is left is a run over its encounters. -/
theorem resume_eq_feed (hd : disk.root.WellFormed) (tasks : List Task) (s : σ) :
    w.outcome disk (w.resume disk s tasks)
      = w.feed s (tasks.flatMap (Task.encounters w.root w.rules disk)) := by
  induction tasks generalizing s with
  | nil => rfl
  | cons t rest ih =>
    cases t with
    | file folder name =>
      rw [List.flatMap_cons, feed_append, resume, Task.encounters, visitFile_eq_feed]
      cases w.visitFile disk folder name s with
      | goOn s => exact ih s
      | stop s r => rfl
    | folder place =>
      rw [List.flatMap_cons, feed_append, resume, Task.encounters]
      by_cases hlink : disk.isLink (w.listedPath place) = true
      · rw [if_pos hlink, if_pos (by exact hlink)]
        exact ih s
      · rw [if_neg hlink, if_neg (by exact hlink), ← arrive_eq_feed w disk hd]
        cases w.arrive disk place s with
        | exhausted s => exact ih s
        | stopped s r left => simp only [outcome, List.flatMap_append]

/-! ## How a walk ends -/

/-- The last state of a traversal, and its result if it stopped. -/
def endOf : Found σ ρ → σ × Option ρ
  | .exhausted s => (s, none)
  | .stopped s r _ => (s, some r)

/-- The last state of a visitor's run over encounters, and its result if it stopped. -/
def feedEnd (s : σ) (xs : List Encounter) : σ × Option ρ := ((w.feed s xs).1, (w.feed s xs).2.map Prod.fst)

theorem feedEnd_append (s : σ) (xs ys : List Encounter) :
    w.feedEnd s (xs ++ ys) = match w.feedEnd s xs with
      | (s, none) => w.feedEnd s ys
      | (s, some r) => (s, some r) := by
  unfold feedEnd
  rw [feed_append]
  cases w.feed s xs with
  | mk s rest =>
    cases rest with
    | none => rfl
    | some rest => rfl

theorem visitFiles_end (folder : List String) (entries : Folder) (s : σ) :
    endOf (w.visitFiles disk folder s entries)
      = w.feedEnd s (filesIn w.root w.rules disk folder entries) := by
  unfold feedEnd
  rw [← visitFiles_eq_feed]
  cases w.visitFiles disk folder s entries with
  | exhausted s => rfl
  | stopped s r left => rfl

theorem enterFolders_end (folder : List String) (entries : Folder) (s : σ) :
    endOf (w.enterFolders disk folder s entries)
      = w.feedEnd s (foldersIn w.root w.rules disk folder entries) := by
  fun_induction enterFolders w disk folder s entries with
  | case1 => simp [endOf, feedEnd, foldersIn, feed]
  | case2 folder s name es rest hx ih => rw [foldersIn_pruned w disk es rest hx, ih]
  | case3 folder s name es rest hx e he =>
    rw [foldersIn_barred w disk es rest hx he]
    rfl
  | case4 folder s name es rest hx _ he s' r left hv =>
    rw [foldersIn_entered w disk es rest hx he, feedEnd_append, ← visitFiles_end, hv]
    rfl
  | case5 folder s name es rest hx _ he s' hv s'' r left hb ih =>
    rw [foldersIn_entered w disk es rest hx he, feedEnd_append, ← visitFiles_end, hv]
    simp only [endOf, feedEnd_append]
    rw [← ih, hb]
    rfl
  | case6 folder s name es rest hx _ he s' hv s'' hb ihb ihr =>
    rw [foldersIn_entered w disk es rest hx he, feedEnd_append, ← visitFiles_end, hv]
    simp only [endOf, feedEnd_append]
    rw [← ihb, hb]
    exact ihr
  | case7 folder s x rest hx ih =>
    rw [ih]
    obtain ⟨name, e⟩ := x
    cases e with
    | folder es => exact absurd rfl (hx name es)
    | file bytes => rw [foldersIn]
    | link target => rw [foldersIn]

/-- A walk ends as its visitor's run over the encounters does, on any disk. -/
theorem arrive_end (folder : List String) (s : σ) :
    endOf (w.arrive disk folder s) = w.feedEnd s (arrivalAt w.root w.rules disk folder) := by
  unfold arrive arrivalAt
  simp only [listedPath]
  cases disk.list (w.root.dotted.append folder) with
  | error e => rfl
  | ok entries =>
    simp only [enter]
    rw [feedEnd_append, ← visitFiles_end]
    cases w.visitFiles disk folder s entries with
    | stopped s r left => rfl
    | exhausted s => exact enterFolders_end w disk folder entries s

end Walk

end DartSurvey.Scan
