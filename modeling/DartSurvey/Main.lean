import DartSurvey.CommandLine.Run

/-! # The program

Reads what stands below the working directory, carries out the command line on it, and prints what comes of
it. Only sources and settings are read; of other files it is enough that they are there.
-/

namespace DartSurvey.Main

open Disk (Entry Folder Path)

/-- The text of a link that leads from a folder `depth` levels below the working directory to a place in
it. -/
def linkText (depth : Nat) (place : List String) : String :=
  String.intercalate "/" (List.replicate depth ".." ++ place)

/-- The components below the working directory of an absolute path, if it lies there. -/
def below? (base path : String) : Option (List String) :=
  let start := Path.components base
  let parts := Path.components path
  if start.isPrefixOf parts then some (parts.drop start.length) else none

/-- The link at a path: where it leads, if that lies below the working directory. -/
def readLink (base : String) (depth : Nat) (path : String) : IO Entry := do
  let target ← try pure (← IO.FS.realPath path).toString catch _ => pure ""
  return .link (((below? base target).map (linkText depth)).getD "/")

/-- The entries of a folder at a path below the working directory. Files that are not wanted count as
empty, and so do folders that cannot be listed. -/
partial def readFolder (base : String) (wanted : String → Bool) (place : List String) : IO Folder := do
  let here := String.intercalate "/" (base :: place)
  let listed ← try (← IO.FS.realPath here).readDir catch _ => pure #[]
  let mut folder : Folder := []
  for e in listed do
    let name := e.fileName
    let entry ← match (← e.path.symlinkMetadata).type with
      | .dir => pure (.folder (← readFolder base wanted (place ++ [name])))
      | .symlink => readLink base place.length e.path.toString
      | _ => do
        let bytes ← if wanted name then (do return (← IO.FS.readBinFile e.path).toList) else pure []
        pure (.file bytes)
    folder := folder.set name entry
  return folder

/-- Whether a file of this name is read, given the words of the command line. -/
def isWanted (args : List String) (name : String) : Bool :=
  name.endsWith ".dart" || name == Settings.fileName || args.any fun a => (Path.ofString a).name == name
    || a.endsWith ("=" ++ name) || a.endsWith ("/" ++ name)

/-- Adds to the log file what a run has logged. -/
def storeLog (args : List String) (before after : Disk) : IO Unit := do
  match CommandLine.Request.parse args with
  | .ok (some r) =>
    match CommandLine.given r.logFile with
    | none => pure ()
    | some path =>
      let size (d : Disk) : Nat := match d.read (Path.ofString path) with
        | .ok bytes => bytes.length
        | .error _ => 0
      match after.read (Path.ofString path) with
      | .ok bytes =>
        let handle ← IO.FS.Handle.mk path .append
        handle.write ⟨(bytes.drop (size before)).toArray⟩
      | .error _ => pure ()
  | _ => pure ()

/-- What a run that breaks off says. -/
def breakOff : CommandLine.Ending → String
  | .brokeOffAtSettings e => e.message?.getD "" ++ "\n"
  | .brokeOffAtPath e path => e.message path ++ "\n"
  | _ => ""

end DartSurvey.Main

open DartSurvey in
/-- The program. -/
def main (args : List String) : IO UInt32 := do
  let base := (← IO.currentDir).toString
  let disk : Disk := ⟨base, ← Main.readFolder base (Main.isWanted args) []⟩
  let outcome := CommandLine.run disk (.ok Dart.parse) args
  Main.storeLog args disk outcome.disk
  IO.print outcome.output
  IO.eprint (outcome.errors ++ Main.breakOff outcome.ending)
  return ((outcome.ending.exitCode?).getD 1).toUInt32
