import DartSurvey.Disk.Access
import DartSurvey.Settings
import DartSurvey.Yaml.Load

/-! # Settings files

`SettingsFile.locate` finds the file that a path stands for: a path to a folder stands for the settings file
in it, a tilde for the home directory, which is the working directory, and links are followed.
`SettingsFile.load` reads the settings in it; a file that is not there stands for the standard settings.
-/

namespace DartSurvey.SettingsFile

open Disk (Path)

/-- Why settings cannot be loaded. -/
inductive LoadError where
  /-- The settings cannot be used. -/
  | problem (p : Settings.Problem)
  /-- The file is no text. -/
  | undecodable (e : Text.Utf8.DecodeError)
  /-- A scalar of the file has the form of a value that does not exist. -/
  | noValue (f : Yaml.Fault)
  /-- A number that is to be written has too many digits. -/
  | unwritable
  /-- The path starts at the home directory of somebody unknown. -/
  | noHome
  /-- The path goes round in links. -/
  | linkLoop (path : String)
  /-- It cannot be told what the path leads to. -/
  | inaccessible (e : Disk.AccessError) (path : String)
deriving DecidableEq

/-- The words for an error, if it has any. -/
def LoadError.message? : LoadError → Option String
  | .problem p => some p.message
  | .undecodable e => some e.message
  | .noValue f => f.message?
  | .unwritable => some Settings.Problem.unwritable.message
  | .noHome => some "Could not determine home directory."
  | .linkLoop path => some ("Symlink loop from " ++ Text.quoted path)
  | .inaccessible e path => some (e.message path)

/-- A path with its tilde replaced by the home directory. -/
def expandHome (p : Path) : Except LoadError Path :=
  match p.parts with
  | [] => .ok p
  | first :: rest =>
    if p.anchor == "" && first.toList.head? == some '~' then
      if first == "~" then .ok ⟨"", rest⟩ else .error .noHome
    else .ok p

/-- The place of a settings file: the folder it is in, as components below the working directory, and its
name, which is empty if the place is the working directory itself. -/
structure Place where
  folder : List String
  name : String
deriving DecidableEq

/-- The components of the file at a place. -/
def Place.parts (p : Place) : List String := if p.name == "" then p.folder else p.folder ++ [p.name]

/-- The path of the file at a place. -/
def Place.path (p : Place) : Path := ⟨"", p.parts⟩

/-- What a path leads to, if to anything; in an error the path is called `shownAs`. -/
def look (d : Disk) (p : Path) (shownAs : String) : Except LoadError (Option Disk.Entry) :=
  match d.probe p with
  | .ok found => .ok found
  | .error e => .error (.inaccessible e shownAs)

/-- The file that a path stands for. -/
def locate (d : Disk) (p : Path) : Except LoadError Place := do
  let p ← expandHome p
  let p := if (← look d p p.text).any Disk.Entry.isFolder then p.append [Settings.fileName] else p
  if p.text.toList.contains '\x00' then throw (.inaccessible .nullCharacter p.text)
  let parts := d.canonical ((d.inside? p).getD p.parts)
  if d.reach ⟨"", parts⟩ matches .error .tooManyLinks then throw (.linkLoop (d.absolute parts))
  return ⟨parts.dropLast, parts.getLast?.getD ""⟩

/-- The settings in the text of the file with a name. -/
def readSettings (name text : String) : Except LoadError Settings :=
  let ofDatum (d : Yaml.Datum) : Except LoadError Settings :=
    match Settings.ofDatum d with
    | .ok s => .ok s
    | .error .unwritable => .error .unwritable
    | .error p => .error (.problem p)
  if (Text.trim text.toList).isEmpty then ofDatum .null
  else
    match Yaml.load Settings.depth text with
    | .ok d => ofDatum d
    | .error .malformed => .error (.problem (.unparsable name))
    | .error f => .error (.noValue f)

/-- The settings a path stands for, and the place of their file. -/
def load (d : Disk) (p : Path) : Except LoadError (Settings × Place) := do
  let place ← locate d p
  if (← look d place.path (d.absolute place.parts)).isNone then return ({}, place)
  match d.readText place.path (d.absolute place.parts) with
  | .ok text => return (← readSettings place.name text, place)
  | .error (.access e path) => throw (.problem (.unreadable place.name e path))
  | .error (.undecodable e) => throw (.undecodable e)

end DartSurvey.SettingsFile
