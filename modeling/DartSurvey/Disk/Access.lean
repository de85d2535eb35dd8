import DartSurvey.Disk.Entry
import DartSurvey.Disk.Path
import DartSurvey.Text.Newline
import DartSurvey.Text.Quoted
import DartSurvey.Text.Utf8

/-! # Reaching and reading files

A disk is a working directory: a folder, and the absolute path by which it is known. Relative paths start
in that folder, links are followed where they stand, and what lies outside the folder is not there. A disk
knows no permissions: what stands on it can be listed, looked at and read by everyone.
-/

namespace DartSurvey

namespace Disk

/-- Why a path does not lead to what is wanted. -/
inductive AccessError where
  | missing
  | notADirectory
  | isADirectory
  | nameTooLong
  | tooManyLinks
  /-- The path holds the character U+0000, which no path may. -/
  | nullCharacter
deriving DecidableEq

namespace AccessError

/-- The number the operating system gives the error, if it is asked at all. -/
def number? : AccessError → Option Nat
  | .missing => some 2
  | .notADirectory => some 20
  | .isADirectory => some 21
  | .nameTooLong => some 36
  | .tooManyLinks => some 40
  | .nullCharacter => none

/-- The words for an error. -/
def words : AccessError → String
  | .missing => "No such file or directory"
  | .notADirectory => "Not a directory"
  | .isADirectory => "Is a directory"
  | .nameTooLong => "File name too long"
  | .tooManyLinks => "Too many levels of symbolic links"
  | .nullCharacter => "embedded null byte"

/-- The message for an error at a path. -/
def message (e : AccessError) (path : String) : String :=
  match e.number? with
  | some n => "[Errno " ++ toString n ++ "] " ++ e.words ++ ": " ++ Text.quoted path
  | none => e.words

/-- Whether an error says no more than that nothing of the kind is there. -/
def isAbsence : AccessError → Bool
  | .nameTooLong => false
  | _ => true

end AccessError

/-- The number of links that are followed on the way to one file. -/
def maxLinks : Nat := 40

/-- The number of bytes of the longest name. -/
def maxName : Nat := 255

/-- The number of bytes below which a path has to stay. -/
def pathLimit : Nat := 4096

/-- Whether a name is too long for a folder to hold it. -/
def isLongName (name : String) : Bool := maxName < name.utf8ByteSize

/-- Follows a path of names from the folder at `here`, whose components are given from the last to the
first. A link on the way is replaced by its target, and so is one at the end if `follow` says so; `hops` is
the number of links that may still be followed. A name with another one behind it, be it empty, has to be
that of a folder. -/
def walkTo (root : Folder) (follow : Bool) (hops : Nat) (here : List String) :
    List String → Except AccessError (List String × Entry)
  | [] =>
    match root.at? here.reverse with
    | some e => .ok (here, e)
    | none => .error .missing
  | name :: rest =>
    if name == "" || name == "." then walkTo root follow hops here rest
    else if name == ".." then
      match here with
      | [] => .error .missing
      | _ :: above => walkTo root follow hops above rest
    else if isLongName name then .error .nameTooLong
    else
      match root.at? (name :: here).reverse with
      | none => .error .missing
      | some (.folder _) => walkTo root follow hops (name :: here) rest
      | some (.file bytes) => if rest.isEmpty then .ok (name :: here, .file bytes) else .error .notADirectory
      | some (.link target) =>
        if rest.isEmpty && !follow then .ok (name :: here, .link target)
        else
          match hops with
          | 0 => .error .tooManyLinks
          | hops + 1 =>
            if Path.anchorOf target != "" then .error .missing
            else walkTo root follow hops here (Path.names target ++ rest)
termination_by todo => (hops, todo.length)

end Disk

/-- A working directory. -/
structure Disk where
  /-- The absolute path of the working directory. -/
  base : String
  root : Disk.Folder

namespace Disk

/-- The components of a path below the working directory; an absolute path has some only if it leads
there. -/
def inside? (d : Disk) (p : Path) : Option (List String) :=
  if p.anchor == "" then some p.parts
  else
    let base := Path.components d.base
    if Path.anchorOf d.base == p.anchor && base.isPrefixOf p.parts then some (p.parts.drop base.length)
    else none

/-- What speaks against the text of a path, whatever is on the disk. -/
def textError? (path : String) : Option AccessError :=
  if path.toList.contains '\x00' then some .nullCharacter
  else if pathLimit ≤ path.utf8ByteSize then some .nameTooLong
  else none

/-- The entry a path leads to, through all links; a link at its end is followed if `follow` says so. -/
def find (d : Disk) (follow : Bool) (p : Path) : Except AccessError Entry :=
  match textError? p.text with
  | some e => .error e
  | none =>
    match d.inside? p with
    | none => .error (if (p.parts.head?.map isLongName).getD false then .nameTooLong else .missing)
    | some parts => (walkTo d.root follow maxLinks [] parts).map (·.2)

/-- The entry a path leads to, through all links. -/
def reach (d : Disk) (p : Path) : Except AccessError Entry := d.find true p

/-- The entry a path leads to, if there is one. That a path is too long is an error all the same. -/
def probe (d : Disk) (p : Path) : Except AccessError (Option Entry) :=
  match d.reach p with
  | .ok e => .ok (some e)
  | .error e => if e.isAbsence then .ok none else .error e

/-- Whether an entry is a folder. -/
def Entry.isFolder : Entry → Bool
  | .folder _ => true
  | _ => false

/-- Whether an entry is a file. -/
def Entry.isFile : Entry → Bool
  | .file _ => true
  | _ => false

/-- Whether a path leads to a folder. -/
def isFolder (d : Disk) (p : Path) : Bool :=
  match d.reach p with
  | .ok (.folder _) => true
  | _ => false

/-- Whether a link stands at a path. -/
def isLink (d : Disk) (p : Path) : Bool :=
  match d.find false p with
  | .ok (.link _) => true
  | _ => false

/-- Whether a link stands at a path. That a path is too long is an error all the same. -/
def probeLink (d : Disk) (p : Path) : Except AccessError Bool :=
  match d.find false p with
  | .ok (.link _) => .ok true
  | .ok _ => .ok false
  | .error e => if e.isAbsence then .ok false else .error e

/-- The entries of the folder a path leads to. -/
def list (d : Disk) (p : Path) : Except AccessError Folder :=
  match d.reach p with
  | .ok (.folder entries) => .ok entries
  | .ok (.file _) => .error .notADirectory
  | .ok (.link _) => .error .tooManyLinks
  | .error e => .error e

/-- The bytes of the file a path leads to. -/
def read (d : Disk) (p : Path) : Except AccessError (List UInt8) :=
  match d.reach p with
  | .ok (.file bytes) => .ok bytes
  | .ok (.folder _) => .error .isADirectory
  | .ok (.link _) => .error .tooManyLinks
  | .error e => .error e

/-- Why a text cannot be read. -/
inductive ReadError where
  | access (e : AccessError) (path : String)
  | undecodable (e : Text.Utf8.DecodeError)
deriving DecidableEq

/-- The message for a text that cannot be read. -/
def ReadError.message : ReadError → String
  | .access e path => e.message path
  | .undecodable e => e.message

/-- The text in bytes, with one kind of line end. -/
def decodeText (bytes : List UInt8) : Except ReadError String :=
  match Text.Utf8.decode bytes with
  | .ok cs => .ok (String.ofList (Text.unifyNewlines cs))
  | .error e => .error (.undecodable e)

/-- The text of the file a path leads to; in an error the path is called `shownAs`. -/
def readText (d : Disk) (p : Path) (shownAs : String) : Except ReadError String :=
  match d.read p with
  | .ok bytes => decodeText bytes
  | .error e => .error (.access e shownAs)

/-! ## Absolute paths -/

/-- A step on the way to a place. -/
inductive Step where
  | name (s : String)
  /-- The end of the way that the link at a place stands for. -/
  | linkEnd (place : List String)

/-- The names that are left of a way. -/
def Step.namesOf (steps : List Step) : List String :=
  steps.filterMap fun
    | .name s => some s
    | .linkEnd _ => none

/-- The components of a path, in which two dots take back the component before them, on top of components
that are given from the last to the first, as the result is. -/
def collapseOnto (here : List String) (names : List String) : List String :=
  names.foldl (fun kept s => if s == ".." then kept.drop 1 else s :: kept) here

/-- What is known of the links on a way: the places of those under way, and where the others lead. -/
structure Trail where
  under : List (List String) := []
  known : List (List String × List String) := []

/-- The components, from the last to the first, of the place that steps lead to from `here`. A name that is
not there is kept as it is, and so is the rest of a way that goes round in links. Each link is followed
once, so `hops` need not be more than the number of links on the disk. -/
def canonicalFrom (root : Folder) (hops : Nat) (trail : Trail) (here : List String) : List Step → List String
  | [] => here
  | .linkEnd place :: rest =>
    canonicalFrom root hops ⟨trail.under.erase place, (place, here) :: trail.known⟩ here rest
  | .name s :: rest =>
    if s == "" || s == "." then canonicalFrom root hops trail here rest
    else if s == ".." then canonicalFrom root hops trail (here.drop 1) rest
    else
      let place := s :: here
      match root.at? place.reverse with
      | some (.link target) =>
        if trail.under.contains place then collapseOnto place (Step.namesOf rest)
        else
          match trail.known.find? (·.1 == place) with
          | some (_, there) => canonicalFrom root hops trail there rest
          | none =>
            match hops with
            | 0 => collapseOnto place (Step.namesOf rest)
            | hops + 1 =>
              canonicalFrom root hops { trail with under := place :: trail.under } here
                ((Path.components target).map .name ++ .linkEnd place :: rest)
      | _ => canonicalFrom root hops trail place rest
termination_by todo => (hops, todo.length)

/-- The components of the place that names lead to. -/
def canonical (d : Disk) (parts : List String) : List String :=
  (canonicalFrom d.root d.root.linkCount {} [] (parts.map .name)).reverse

/-- The absolute path of a place below the working directory. -/
def absolute (d : Disk) (place : List String) : String :=
  if place.isEmpty then d.base else d.base ++ "/" ++ String.intercalate "/" place

end Disk

end DartSurvey
