import DartSurvey.Disk.Access

/-! # Changing files

A file that is opened for writing is made if it is not there, in a folder that has to be there
(`Disk.openForAppend`), or whose folders are made too (`Disk.write`). A link in the way of a file leads to the
file that is written, be it there or not.
-/

namespace DartSurvey.Disk

/-- The components of a path, in which two dots take back the component before them. -/
def collapse (parts : List String) : List String := (collapseOnto [] parts).reverse

/-- Whether two dots in a path take back more components than stand before them, of which there are `depth`
more. -/
def leaves (depth : Nat) : List String → Bool
  | [] => false
  | s :: rest =>
    if s == ".." then
      match depth with
      | 0 => true
      | depth + 1 => leaves depth rest
    else leaves (depth + 1) rest

/-- The place, from its last component to the first, of the file that a path of names from the folder at `here`
opens for writing. A name with empty ones behind it can only be that of a folder. -/
def placeToWrite (root : Folder) (hops : Nat) (here : List String) : List String → Except AccessError (List String)
  | [] => .error .isADirectory
  | name :: rest =>
    if name == "" || name == "." then placeToWrite root hops here rest
    else if name == ".." then
      match here with
      | [] => .error .missing
      | _ :: above => placeToWrite root hops above rest
    else if !rest.isEmpty && rest.all (· == "") then .error .isADirectory
    else if isLongName name then .error .nameTooLong
    else
      match root.at? (name :: here).reverse with
      | some (.link target) =>
        match hops with
        | 0 => .error .tooManyLinks
        | hops + 1 =>
          if Path.anchorOf target != "" then .error .missing
          else placeToWrite root hops here (Path.names target ++ rest)
      | some (.folder _) => if rest.isEmpty then .error .isADirectory else placeToWrite root hops (name :: here) rest
      | some (.file _) => if rest.isEmpty then .ok (name :: here) else .error .notADirectory
      | none => if rest.isEmpty then .ok (name :: here) else .error .missing
termination_by todo => (hops, todo.length)

/-- The disk with a file at a place, which is left as it is if it is there. -/
def touch (d : Disk) (place : List String) : Disk :=
  match d.root.at? place with
  | some _ => d
  | none => { d with root := d.root.put (.file []) place }

/-- The device that keeps nothing of what is written to it. -/
def nullDevice : Path := ⟨"/", ["dev", "null"]⟩

/-- A file that has been opened for appending: its place, unless what is written to it is not kept, and the
disk with the file. -/
structure Opened where
  place : Option (List String)
  disk : Disk

/-- Opens the file at a path for appending; an error comes with the absolute path. Files outside of the working
directory are not kept. -/
def openForAppend (d : Disk) (p : Path) : Except (AccessError × String) Opened :=
  match d.inside? p with
  | none =>
    let p : Path := ⟨p.anchor, collapse p.parts⟩
    if p = nullDevice then .ok ⟨none, d⟩
    else .error (if (p.parts.head?.map isLongName).getD false then .nameTooLong else .missing, p.text)
  | some parts =>
    if leaves 0 parts then .ok ⟨none, d⟩
    else
      let parts := collapse parts
      let path := d.absolute parts
      match textError? path, placeToWrite d.root maxLinks [] parts with
      | some e, _ | none, .error e => .error (e, path)
      | none, .ok place => .ok ⟨some place.reverse, d.touch place.reverse⟩

/-- The disk with bytes at the end of the file at a place. -/
def append (d : Disk) (place : List String) (bytes : List UInt8) : Disk :=
  match d.root.at? place with
  | some (.file old) => { d with root := d.root.put (.file (old ++ bytes)) place }
  | _ => d

/-! ## Files with their folders -/

/-- The place of what stands at a path itself, when only links before its last component are followed. -/
def placeOf (d : Disk) (parts : List String) : List String :=
  d.canonical parts.dropLast ++ parts.getLast?.toList

/-- The disk with a folder at a path. -/
def makeFolder (d : Disk) (parts : List String) : Disk :=
  let place := d.canonical parts
  match d.root.at? place with
  | some (.folder _) => d
  | _ => { d with root := d.root.put (.folder []) place }

/-- The disk with a file of these bytes at a path. -/
def write (d : Disk) (parts : List String) (bytes : List UInt8) : Disk :=
  let d := d.makeFolder parts.dropLast
  match placeToWrite d.root maxLinks [] parts with
  | .ok place => { d with root := d.root.put (.file bytes) place.reverse }
  | .error _ => d

/-- The disk with a link at a path. -/
def link (d : Disk) (parts : List String) (target : String) : Disk :=
  let d := d.makeFolder parts.dropLast
  { d with root := d.root.put (.link target) (d.placeOf parts) }

/-- The disk without what stands at a path. -/
def remove (d : Disk) (parts : List String) : Disk := { d with root := d.root.remove (d.placeOf parts) }

end DartSurvey.Disk
