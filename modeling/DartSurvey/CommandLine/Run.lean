import DartSurvey.CommandLine.Request
import DartSurvey.Disk.Write
import DartSurvey.Log
import DartSurvey.Scan.Inspector
import DartSurvey.SettingsFile

/-! # Runs of the program

`run` carries out a command line on a disk. Nothing is printed before the command line, the directory and
the settings are known to be good; then the banner and the records are printed, up to the first source that
cannot be read. How a run ends is an `Ending`, which has an exit code unless the run breaks off.
-/

namespace DartSurvey.CommandLine

open Disk (Path)
open Report (Format)

/-- Why there is no parser. -/
inductive Unavailable where
  | notInstalled
  /-- The grammar does not load, for this reason. -/
  | notLoaded (reason : String)
deriving DecidableEq

/-- The words for a missing parser. -/
def Unavailable.message : Unavailable → String
  | .notInstalled => "tree_sitter and tree_sitter_language_pack are required to parse Dart sources"
  | .notLoaded reason => "Failed to load the tree-sitter 'dart' grammar: " ++ reason

/-- How a run ends. -/
inductive Ending where
  | finished (records : Nat)
  | helpShown
  | misused (m : Misuse)
  | conflictingFlags
  | directoryNotFound (directory : String)
  | settingsNotFound (path : String)
  | settingsInvalid (p : Settings.Problem)
  | parserUnavailable (u : Unavailable)
  | sourcesUnreadable (f : Scan.Failure)
  /-- The settings cannot be loaded, in a way that is not expected of settings. -/
  | brokeOffAtSettings (e : SettingsFile.LoadError)
  /-- The log file cannot be opened, or it cannot be told what a path leads to. -/
  | brokeOffAtPath (e : Disk.AccessError) (path : String)
deriving DecidableEq

namespace Ending

/-- The exit code of a run, unless it breaks off. -/
def exitCode? : Ending → Option Nat
  | .finished _ | .helpShown => some 0
  | .misused _ => some 2
  | .conflictingFlags => some 64
  | .directoryNotFound _ => some 66
  | .parserUnavailable _ => some 69
  | .sourcesUnreadable _ => some 74
  | .settingsNotFound _ | .settingsInvalid _ => some 78
  | .brokeOffAtSettings _ | .brokeOffAtPath _ _ => none

/-- A message about the end of a run, on a line of its own. -/
def line (text : String) : String := "** " ++ text ++ "\n"

/-- What a run says about its end. -/
def message : Ending → String
  | .finished _ | .helpShown => ""
  | .misused m => usage ++ program ++ ": error: " ++ m.message ++ "\n"
  | .conflictingFlags => line "Options --final-only and --no-final cannot be used together."
  | .directoryNotFound directory => line ("Directory not found: " ++ directory)
  | .settingsNotFound path => line ("Config file not found: " ++ path)
  | .settingsInvalid p => line ("Invalid configuration: " ++ p.message)
  | .parserUnavailable u => line u.message
  | .sourcesUnreadable f => line ("Failed to read sources: " ++ f.message)
  | .brokeOffAtSettings _ | .brokeOffAtPath _ _ => ""

end Ending

/-- A line of the log, with the channel it belongs to. -/
structure LogLine where
  channel : String
  text : String
deriving DecidableEq

/-- A line of the log as it is shown. -/
def LogLine.shown (l : LogLine) : String := "[" ++ Log.root ++ "] DEBUG " ++ l.text ++ "\n"

/-- A line of the log as it is stored. -/
def LogLine.stored (l : LogLine) : String := "DEBUG " ++ l.channel ++ ": " ++ l.text ++ "\n"

/-- What a run has printed and logged, what happened during its scan, and how it has ended. -/
structure Transcript where
  ending : Ending
  output : String := ""
  log : List LogLine := []
  events : List Scan.Event := []

/-- A line of the log about a run. -/
def runLine (text : String) : LogLine := ⟨Log.channel (some "cli"), text⟩

/-- The line of the log about an event of a scan. -/
def scanLine? (e : Scan.Event) : Option LogLine := e.logLine?.map (⟨Log.channel (some "scanner"), ·⟩)

/-! ## The steps of a run -/

/-- What a scan needs to know: the directory as given, the policy, the format and the paths left out. -/
structure Plan where
  directory : String
  policy : Policy
  format : Format
  excludePaths : List String

/-- The flags of a request, as settings are told of them. -/
def Request.flagList (r : Request) : List (String × Bool) :=
  Settings.optionSwitches.map fun s => (s.key, r.flags.contains s)

/-- The value of an option; an empty one counts as none. -/
def given (value : Option String) : Option String := value.filter (· != "")

/-- The settings of a request, and the policy they give together with its flags. -/
def Request.settings (r : Request) (d : Disk) (directory : String) : Except Ending (Settings × Policy) :=
  match SettingsFile.load d (Path.ofString ((given r.config).getD directory)) with
  | .error (.problem p) => .error (.settingsInvalid p)
  | .error e => .error (.brokeOffAtSettings e)
  | .ok (s, _) =>
    match s.policy r.format r.flagList with
    | .error p => .error (.settingsInvalid p)
    | .ok p => .ok (s, p)

/-- Whether a path leads to an entry of a kind. -/
def leadsTo (d : Disk) (path : String) (kind : Disk.Entry → Bool) : Except Ending Bool :=
  let p := Path.ofString path
  match d.probe p with
  | .ok found => .ok (found.any kind)
  | .error e => .error (.brokeOffAtPath e p.text)

/-- What is to be scanned, or what speaks against it. -/
def Request.plan (r : Request) (d : Disk) (directory : String) : Except Ending Plan := do
  if r.flags.contains .finalOnly && r.flags.contains .noFinal then throw .conflictingFlags
  if !(← leadsTo d directory Disk.Entry.isFolder) then throw (.directoryNotFound directory)
  match given r.config with
  | some path => if !(← leadsTo d path Disk.Entry.isFile) then throw (.settingsNotFound path)
  | none => pure ()
  let (s, policy) ← r.settings d directory
  return { directory, policy, format := r.format.getD s.format, excludePaths := s.usablePaths }

/-- The line of the log with which a scan begins. -/
def Plan.opening (p : Plan) : LogLine :=
  runLine ("Scanning " ++ (Path.ofString p.directory).text ++ " with " ++ p.policy.text ++ " (format: "
    ++ p.format.name ++ ")")

/-- The records among the items of a scan. -/
def recordsOf (items : List Scan.Item) : List Report.Record :=
  items.filterMap fun
    | .record r => some r
    | .path _ => none

@[simp] theorem recordsOf_map_record (rs : List Report.Record) : recordsOf (rs.map .record) = rs := by
  rw [recordsOf, List.filterMap_map]
  exact List.filterMap_some

/-- The scan of a plan with a parser. -/
def Plan.scan (p : Plan) (d : Disk) (parse : Parser) : Transcript :=
  let inspector : Scan.Inspector := ⟨p.policy, Exclude.rulesOf p.excludePaths, parse⟩
  let drained := inspector.drain d (.directory p.directory false)
  let records := recordsOf drained.items
  let written := Report.write p.format records
  let output := Report.banner p.format p.directory p.policy ++ written.text
  let events := drained.events
  let log := p.opening :: events.filterMap scanLine?
  match drained.failure with
  | some f => { ending := .sourcesUnreadable f, output, log, events }
  | none =>
    { ending := .finished written.count, output
      log := log ++ [runLine ("Wrote " ++ toString written.count ++ " records")], events }

/-- The run of a plan, if there is a parser. -/
def Plan.run (p : Plan) (d : Disk) : Except Unavailable Parser → Transcript
  | .error u => { ending := .parserUnavailable u, log := [p.opening] }
  | .ok parse => p.scan d parse

/-- The run of a request for a directory. -/
def Request.run (r : Request) (d : Disk) (parser : Except Unavailable Parser) (directory : String) : Transcript :=
  match r.plan d directory with
  | .error e => { ending := e }
  | .ok p => p.run d parser

/-! ## Runs with their log -/

/-- What is left after a run: what it has printed on either channel, what happened during its scan, and the
disk. -/
structure Outcome where
  ending : Ending
  output : String
  errors : String
  events : List Scan.Event
  disk : Disk

/-- The outcome of a run that reads and logs nothing. -/
def Outcome.early (d : Disk) (ending : Ending) (output : String) : Outcome :=
  ⟨ending, output, ending.message, [], d⟩

/-- The outcome of a run whose log goes to a place, if to any. The log is kept only if it is asked for. -/
def Outcome.ofTranscript (d : Disk) (verbose : Bool) (log : Option (List String)) (t : Transcript) : Outcome :=
  let lines := if verbose then t.log else []
  let disk := match log with
    | none => d
    | some place => d.append place (Text.Utf8.encode (lines.flatMap fun l => l.stored.toList))
  ⟨t.ending, t.output, String.join (lines.map LogLine.shown) ++ t.ending.message, t.events, disk⟩

/-- The path of a log file, which ends before the first character U+0000. -/
def untilNull (path : String) : String := String.ofList (path.toList.takeWhile (· != '\x00'))

/-- Carries out a request for a directory, with its log. -/
def Request.carryOut (r : Request) (d : Disk) (parser : Except Unavailable Parser) (directory : String) : Outcome :=
  match given r.logFile with
  | none => .ofTranscript d r.verbose none (r.run d parser directory)
  | some path =>
    match d.openForAppend (Path.ofString (untilNull path)) with
    | .error (e, path) => .early d (.brokeOffAtPath e path) ""
    | .ok ⟨place, d⟩ => .ofTranscript d r.verbose place (r.run d parser directory)

/-- Carries out a command line. -/
def run (d : Disk) (parser : Except Unavailable Parser) (args : List String) : Outcome :=
  match Request.parse args with
  | .error m => .early d (.misused m) ""
  | .ok none => .early d .helpShown help
  | .ok (some r) =>
    match r.directory with
    | none => .early d .helpShown help
    | some directory => r.carryOut d parser directory

end DartSurvey.CommandLine
