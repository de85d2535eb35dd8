/-! # Files, links and folders

A folder is a list of named entries. `Folder.put` keeps the names of a folder in ascending order and in
each name one entry, so listing a folder from first to last lists it by name.
-/

namespace DartSurvey.Disk

/-- What stands under a name. -/
inductive Entry where
  | file (bytes : List UInt8)
  /-- A symbolic link with the path it points to. -/
  | link (target : String)
  | folder (entries : List (String × Entry))
deriving Inhabited

/-- The named entries of a folder. -/
abbrev Folder := List (String × Entry)

namespace Folder

/-- The entry under a name. -/
def find? (name : String) : Folder → Option Entry
  | [] => none
  | (n, e) :: rest => if n == name then some e else find? name rest

/-- The folder with an entry under a name, in the place its name takes. -/
def set (name : String) (entry : Entry) : Folder → Folder
  | [] => [(name, entry)]
  | (n, e) :: rest =>
    if n == name then (name, entry) :: rest
    else if name < n then (name, entry) :: (n, e) :: rest
    else (n, e) :: set name entry rest

/-- The folder without the entry under a name. -/
def erase (name : String) (folder : Folder) : Folder := folder.filter fun e => e.1 != name

/-- The entries of the folder under a name, or none if there is no folder. -/
def child (name : String) (folder : Folder) : Folder :=
  match folder.find? name with
  | some (.folder entries) => entries
  | _ => []

/-- The folder with an entry at a path below it; folders on the way are made. -/
def put (entry : Entry) : List String → Folder → Folder
  | [], folder => folder
  | [name], folder => folder.set name entry
  | name :: rest, folder => folder.set name (.folder (put entry rest (folder.child name)))

/-- The folder without what stands at a path below it. -/
def remove : List String → Folder → Folder
  | [], folder => folder
  | [name], folder => folder.erase name
  | name :: rest, folder =>
    match folder.find? name with
    | some (.folder entries) => folder.set name (.folder (remove rest entries))
    | _ => folder

/-- The entry at a path of names, without following links. -/
def at? (path : List String) (folder : Folder) : Option Entry :=
  match path with
  | [] => some (.folder folder)
  | [name] => folder.find? name
  | name :: rest =>
    match folder.find? name with
    | some (.folder entries) => at? rest entries
    | _ => none

end Folder

mutual

/-- The number of links in an entry. -/
def Entry.linkCount : Entry → Nat
  | .file _ => 0
  | .link _ => 1
  | .folder entries => Folder.linkCount entries

/-- The number of links in a folder and below it. -/
def Folder.linkCount : Folder → Nat
  | [] => 0
  | (_, e) :: rest => e.linkCount + Folder.linkCount rest

end

end DartSurvey.Disk
