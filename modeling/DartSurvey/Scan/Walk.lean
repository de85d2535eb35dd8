import DartSurvey.Disk.Access
import DartSurvey.Exclude.Rule

/-! # Walking a directory

The walk visits the Dart files below a directory: the files of a folder in the order of the listing, then
its subfolders one after the other. A folder is listed when the walk arrives at it. Links are passed over,
and folders that a rule excludes are not entered. A folder is asked for by the path from the directory as it
was given (`listedPath`), a file by its plain path (`pathOf`): below a single dot the first is longer.

A walk can stop at any file and go on later, on a disk that may have changed. What is left to do is then a
list of `Task`s. The visitor decides at each file whether to stop (`Step`), so one traversal serves to list
files, to find the next record, and to collect a whole report. A walk goes down as far as the tree does: there
is no limit on the depth of its recursion.
-/

namespace DartSurvey.Scan

open Disk (Entry Folder Path)

/-- Work that a walk has still to do; folders are named by their components below the walked directory. -/
inductive Task where
  | file (folder : List String) (name : String)
  | folder (place : List String)
deriving DecidableEq

/-- What a visitor answers: go on, or stop with a result. -/
inductive Step (σ ρ : Type) where
  | goOn (state : σ)
  | stop (state : σ) (result : ρ)

/-- Where a traversal ended: at its end, or at a result with work left. -/
inductive Found (σ ρ : Type) where
  | exhausted (state : σ)
  | stopped (state : σ) (result : ρ) (left : List Task)

/-- A walk: the directory, the rules, and what happens at a file, at an excluded file, and when a folder
cannot be listed or a file cannot be looked at. -/
structure Walk (σ ρ : Type) where
  root : Path
  rules : List Exclude.Rule
  visit : σ → Path → Step σ ρ
  excluded : σ → String → σ
  fail : Disk.AccessError → String → ρ

namespace Walk

variable {σ ρ : Type} (w : Walk σ ρ) (disk : Disk)

/-- The path of a place below the walked directory. -/
def pathOf (place : List String) : Path := w.root.append place

/-- The path by which a folder is listed: the directory as given, whose dot stays where it is one, and the
names below it. -/
def listedPath (place : List String) : Path := w.root.dotted.append place

/-- The text of a place below the walked directory, as rules see it. -/
def relative (place : List String) : String := String.intercalate "/" place

/-- Whether the walk enters no folder at a place. -/
def prunes (place : List String) : Bool := Exclude.excludes w.rules (relative place) true

/-- Whether a name ends like that of a Dart file. -/
def isSource (name : String) : Bool := ".dart".toList.isSuffixOf name.toList

/-- Whether an entry of a folder counts as a folder: it is one, or a link that leads to one. -/
def isFolderEntry (folder : List String) (name : String) : Entry → Bool
  | .folder _ => true
  | .link _ => disk.isFolder (w.listedPath (folder ++ [name]))
  | .file _ => false

/-- The tasks for the files of a folder. -/
def fileTasks (folder : List String) (entries : Folder) : List Task :=
  (entries.filter fun e => !w.isFolderEntry disk folder e.1 e.2).map fun e => .file folder e.1

/-- The tasks for the subfolders of a folder that are not excluded. -/
def folderTasks (folder : List String) (entries : Folder) : List Task :=
  (entries.filter fun e => w.isFolderEntry disk folder e.1 e.2 && !w.prunes (folder ++ [e.1])).map
    fun e => .folder (folder ++ [e.1])

/-- Visits a file, unless its name, a link or a rule keeps it out. -/
def visitFile (folder : List String) (name : String) (s : σ) : Step σ ρ :=
  if !isSource name then .goOn s
  else
    match disk.probeLink (w.pathOf (folder ++ [name])) with
    | .error e => .stop s (w.fail e (w.pathOf (folder ++ [name])).text)
    | .ok true => .goOn s
    | .ok false =>
      if Exclude.excludes w.rules (relative (folder ++ [name])) false then
        .goOn (w.excluded s (relative (folder ++ [name])))
      else w.visit s (w.pathOf (folder ++ [name]))

/-- Visits the files of a folder. -/
def visitFiles (folder : List String) (s : σ) : Folder → Found σ ρ
  | [] => .exhausted s
  | (name, entry) :: rest =>
    if w.isFolderEntry disk folder name entry then visitFiles folder s rest
    else
      match w.visitFile disk folder name s with
      | .goOn s => visitFiles folder s rest
      | .stop s r => .stopped s r (w.fileTasks disk folder rest)

/-- Goes through the subfolders of a folder, each of which is listed first. -/
def enterFolders (folder : List String) (s : σ) : Folder → Found σ ρ
  | [] => .exhausted s
  | (name, .folder entries) :: rest =>
    if w.prunes (folder ++ [name]) then enterFolders folder s rest
    else
      match disk.list (w.listedPath (folder ++ [name])) with
      | .error e => .stopped s (w.fail e (w.listedPath (folder ++ [name])).text) (w.folderTasks disk folder rest)
      | .ok _ =>
        match w.visitFiles disk (folder ++ [name]) s entries with
        | .stopped s r left =>
          .stopped s r (left ++ w.folderTasks disk (folder ++ [name]) entries ++ w.folderTasks disk folder rest)
        | .exhausted s =>
          match enterFolders (folder ++ [name]) s entries with
          | .stopped s r left => .stopped s r (left ++ w.folderTasks disk folder rest)
          | .exhausted s => enterFolders folder s rest
  | _ :: rest => enterFolders folder s rest

/-- Goes through a folder: its files, then its subfolders. -/
def enter (folder : List String) (s : σ) (entries : Folder) : Found σ ρ :=
  match w.visitFiles disk folder s entries with
  | .stopped s r left => .stopped s r (left ++ w.folderTasks disk folder entries)
  | .exhausted s => w.enterFolders disk folder s entries

/-- Arrives at a folder: lists it and goes through it. -/
def arrive (folder : List String) (s : σ) : Found σ ρ :=
  match disk.list (w.listedPath folder) with
  | .error e => .stopped s (w.fail e (w.listedPath folder).text) []
  | .ok entries => w.enter disk folder s entries

/-- Goes on with the work that is left. A folder that has become a link since it was listed is passed
over. -/
def resume (s : σ) : List Task → Found σ ρ
  | [] => .exhausted s
  | .file folder name :: rest =>
    match w.visitFile disk folder name s with
    | .goOn s => resume s rest
    | .stop s r => .stopped s r rest
  | .folder place :: rest =>
    if disk.isLink (w.listedPath place) then resume s rest
    else
      match w.arrive disk place s with
      | .stopped s r left => .stopped s r (left ++ rest)
      | .exhausted s => resume s rest

end Walk

end DartSurvey.Scan
