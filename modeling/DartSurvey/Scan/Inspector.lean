import DartSurvey.Dart.Parser
import DartSurvey.Report.Extract
import DartSurvey.Scan.Walk

/-! # Scans

An inspector holds a policy, exclusion rules and a parser. A scan of a text, a file or a directory gives
its records one at a time: nothing is read or parsed before the first record is asked for, and no file is
opened before its first record is. `Inspector.pull` takes one step of a suspended scan and returns what is
left of it; `Inspector.drain` takes all steps at once. What happened on the way is a list of `Event`s.
-/

namespace DartSurvey.Scan

open Disk (Path)
open Report (Record)

/-- What an inspector works with. -/
structure Inspector where
  policy : Policy
  rules : List Exclude.Rule
  parse : Parser

/-- What happens during a scan. -/
inductive Event where
  /-- A file is about to be opened. -/
  | opening (path : String)
  /-- A text was parsed. -/
  | parsed (source : String)
  /-- The parser reported a diagnostic. -/
  | diagnosed (path : String) (diagnostic : String)
  /-- A rule excluded a file. -/
  | excluded (path : String)
deriving DecidableEq

/-- The log line of an event. -/
def Event.logLine? : Event → Option String
  | .opening path => some ("Scanning " ++ path)
  | .parsed _ => none
  | .diagnosed path diagnostic => some (path ++ ":" ++ diagnostic)
  | .excluded path => some ("Excluded " ++ path)

/-- Why a scan fails. -/
inductive Failure where
  /-- The directory to scan is not there. -/
  | rootMissing (root : String)
  /-- What is to be scanned is no directory. -/
  | rootNotADirectory (root : String)
  /-- A file or a folder cannot be read. -/
  | unreadable (e : Disk.ReadError)
deriving DecidableEq

/-- The message of a failure. -/
def Failure.message : Failure → String
  | .rootMissing root => "Directory not found: " ++ root
  | .rootNotADirectory root => "Path is not a directory: " ++ root
  | .unreadable e => e.message

/-- What a scan yields. -/
inductive Item where
  | record (r : Record)
  | path (p : String)

/-- A suspended scan. -/
inductive Suspended where
  /-- The records of a text have been asked for. -/
  | source (text : String) (path : Option String)
  /-- The records of a file have been asked for. -/
  | file (path : Path)
  /-- The records of a directory, or only its files, have been asked for. -/
  | directory (root : String) (filesOnly : Bool)
  /-- Items are ready, and in a directory there is work left. -/
  | underWay (ready : List Item) (root : Path) (filesOnly : Bool) (left : List Task)
  /-- The scan has ended, failed or been closed. -/
  | finished

/-- Closes a scan: what was left of it is not done any more. -/
def Suspended.close (_ : Suspended) : Suspended := .finished

/-- The answer to a pull. -/
inductive Answer where
  | item (i : Item)
  | ended
  | failed (f : Failure)

/-- The path by which diagnostics of a text are reported. -/
def sourceLabel (path : Option String) : String :=
  match path with
  | none => "<source>"
  | some p => if p == "" then "<source>" else p

namespace Inspector

variable (ins : Inspector) (disk : Disk)

/-- The records of a text, and what happens while they are made. -/
def scanSource (text : String) (path : Option String) : List Record × List Event :=
  let unit := ins.parse text
  (unit.report ins.policy path,
    .parsed text :: unit.diagnostics.map (Event.diagnosed (sourceLabel path)))

/-- The records of a file, and what happens while they are made. -/
def scanFile (path : Path) : Except Failure (List Record) × List Event :=
  match disk.readText path path.text with
  | .error e => (.error (.unreadable e), [.opening path.text])
  | .ok text =>
    let (records, events) := ins.scanSource text (some path.text)
    (.ok records, .opening path.text :: events)

/-- The items a visited file gives, and what happens while they are made. -/
def itemsOf (filesOnly : Bool) (path : Path) : Except Failure (List Item) × List Event :=
  if filesOnly then (.ok [.path path.text], [])
  else
    let (result, events) := ins.scanFile disk path
    (result.map (·.map Item.record), events)

/-- Why a scan of this directory cannot start. -/
@[irreducible]
def rootFailure? (root : String) : Option Failure :=
  let path := Path.ofString root
  match disk.probe path with
  | .error e => some (.unreadable (.access e path.text))
  | .ok none => some (.rootMissing root)
  | .ok (some (.folder _)) => none
  | .ok (some _) => some (.rootNotADirectory root)

/-- The walk that stops at the first file with an item. -/
def seeking (filesOnly : Bool) (root : Path) : Walk (List Event) (Except Failure (List Item)) where
  root
  rules := ins.rules
  visit events path :=
    match ins.itemsOf disk filesOnly path with
    | (.ok [], more) => .goOn (events ++ more)
    | (result, more) => .stop (events ++ more) result
  excluded events path := events ++ [.excluded path]
  fail e path := .error (.unreadable (.access e path))

/-- The walk that collects the items of all files and stops at a failure. -/
def collecting (filesOnly : Bool) (root : Path) : Walk (List Item × List Event) Failure where
  root
  rules := ins.rules
  visit := fun (items, events) path =>
    match ins.itemsOf disk filesOnly path with
    | (.ok more, new) => .goOn (items ++ more, events ++ new)
    | (.error f, new) => .stop (items, events ++ new) f
  excluded := fun (items, events) path => (items, events ++ [.excluded path])
  fail e path := .unreadable (.access e path)

/-! ## One step -/

/-- What a pull gives: the answer, the scan that is left, and what happened. -/
structure Pulled where
  answer : Answer
  scan : Suspended
  events : List Event

/-- Hands out the first of the items that are ready. -/
def handOut (events : List Event) (root : Path) (filesOnly : Bool) (left : List Task) : List Item → Pulled
  | [] => ⟨.ended, .finished, events⟩
  | i :: ready => ⟨.item i, .underWay ready root filesOnly left, events⟩

/-- The pull that a traversal in search of the next item amounts to. -/
def ofFound (root : Path) (filesOnly : Bool) :
    Found (List Event) (Except Failure (List Item)) → Pulled
  | .exhausted events => ⟨.ended, .finished, events⟩
  | .stopped events (.error f) _ => ⟨.failed f, .finished, events⟩
  | .stopped events (.ok items) left => handOut events root filesOnly left items

/-- Asks a scan for its next item. -/
def pull : Suspended → Pulled
  | .source text path =>
    let (records, events) := ins.scanSource text path
    handOut events ⟨"", []⟩ false [] (records.map Item.record)
  | .file path =>
    match ins.scanFile disk path with
    | (.error f, events) => ⟨.failed f, .finished, events⟩
    | (.ok records, events) => handOut events ⟨"", []⟩ false [] (records.map Item.record)
  | .directory root filesOnly =>
    match rootFailure? disk root with
    | some f => ⟨.failed f, .finished, []⟩
    | none =>
      let path := Path.ofString root
      ofFound path filesOnly ((ins.seeking disk filesOnly path).arrive disk [] [])
  | .underWay (i :: ready) root filesOnly left => ⟨.item i, .underWay ready root filesOnly left, []⟩
  | .underWay [] root filesOnly left =>
    ofFound root filesOnly ((ins.seeking disk filesOnly root).resume disk [] left)
  | .finished => ⟨.ended, .finished, []⟩

/-! ## All steps at once -/

/-- What is left of a scan, up to its end or its failure. -/
structure Drained where
  items : List Item
  failure : Option Failure
  events : List Event

/-- What a traversal that collects everything amounts to. -/
def ofCollected : Found (List Item × List Event) Failure → Drained
  | .exhausted (items, events) => ⟨items, none, events⟩
  | .stopped (items, events) f _ => ⟨items, some f, events⟩

/-- All items of a scan. -/
def drain : Suspended → Drained
  | .source text path =>
    let (records, events) := ins.scanSource text path
    ⟨records.map Item.record, none, events⟩
  | .file path =>
    match ins.scanFile disk path with
    | (.error f, events) => ⟨[], some f, events⟩
    | (.ok records, events) => ⟨records.map Item.record, none, events⟩
  | .directory root filesOnly =>
    match rootFailure? disk root with
    | some f => ⟨[], some f, []⟩
    | none =>
      let path := Path.ofString root
      ofCollected ((ins.collecting disk filesOnly path).arrive disk [] ([], []))
  | .underWay ready root filesOnly left =>
    ofCollected ((ins.collecting disk filesOnly root).resume disk (ready, []) left)
  | .finished => ⟨[], none, []⟩

end Inspector

end DartSurvey.Scan
