import DartSurvey.Disk.Access
import DartSurvey.Report.Render
import DartSurvey.Yaml.Datum

/-! # Settings

The settings of a project: which switches are on, the output format, and the patterns of paths that are
left out. `Settings.ofDatum` reads them from the data of a settings file, and `Settings.policy` joins them
with what is asked for at the moment: a flag can switch an option on and never off, and a format that is
asked for replaces the one in the file.
-/

namespace DartSurvey

open Yaml (Datum)
open Report (Format)
open Text (Wide)

/-- The settings of a project. -/
structure Settings where
  /-- The options that are set, each with its value. -/
  options : Switch → Option Bool := fun _ => none
  format : Format := .plain "simple"
  excludePaths : List Wide := []

namespace Settings

/-- The name of a settings file. -/
def fileName : String := ".dart_inspect.yml"

/-- The switches that settings and flags may name. -/
def optionSwitches : List Switch :=
  [.privateOnly, .noPrimitives, .finalOnly, .noFinal, .noClasses, .noImports]

/-- The switch of an option. -/
def option? (key : String) : Option Switch := optionSwitches.find? (·.key == key)

/-- The paths of the settings that can be compared with names of files. A half of a surrogate pair stands in
no name. -/
def usablePaths (s : Settings) : List String := s.excludePaths.filterMap Wide.text?

/-- The formats by name. -/
def formatNames : List String := ["simple", "markdown", "json"]

/-- Why settings cannot be used. -/
inductive Problem where
  /-- The file with this name cannot be read. -/
  | unreadable (name : String) (e : Disk.AccessError) (path : String)
  /-- The file with this name does not hold data. -/
  | unparsable (name : String)
  | notAMapping
  | optionsNotAMapping
  | unknownOption (key : String)
  | notATruthValue (key : String)
  | unsupportedFormat (name : String)
  /-- A number has too many digits to be written. -/
  | unwritable
  /-- A flag that names no option. -/
  | unknownFlag (key : String)
  | conflict (c : Policy.Conflict)
deriving DecidableEq

/-- The words for a problem. -/
def Problem.message : Problem → String
  | .unreadable name e path => "Failed to read " ++ name ++ ": " ++ e.message path
  | .unparsable name => "Failed to parse " ++ name
  | .notAMapping => fileName ++ " must contain a mapping at the root"
  | .optionsNotAMapping => "'options' must be a mapping of option names to booleans"
  | .unknownOption key => "Unknown option in " ++ fileName ++ ": " ++ key
  | .notATruthValue key => "Option '" ++ key ++ "' must be a boolean"
  | .unsupportedFormat name =>
    "Unsupported format '" ++ name ++ "' (expected one of: " ++ String.intercalate ", " formatNames ++ ")"
  | .unwritable => Yaml.tooManyDigits ""
  | .unknownFlag key => "Unknown option: " ++ key
  | .conflict c => c.message

/-! ## Reading data -/

/-- The text of a datum, if it can be written. -/
def textOf (d : Datum) : Except Problem Wide :=
  match d.written? with
  | some w => .ok w
  | none => .error .unwritable

/-- The switch of an option as it is written: hyphens count as underscores. -/
def writtenOption? (key : Wide) : Option Switch :=
  (Wide.text? (key.map fun g => if g == .char '-' then .char '_' else g)).bind option?

/-- The truth value of an option: a truth value, or a word for one between blanks. -/
def truth? : Datum → Option Bool
  | .bool b => some b
  | .text w =>
    w.chars?.bind fun cs =>
      let word := String.ofList (Text.lowerCase (Text.trim cs))
      if ["true", "yes", "1"].contains word then some true
      else if ["false", "no", "0"].contains word then some false
      else none
  | _ => none

/-- The options with one of them set. -/
def setOption (options : Switch → Option Bool) (s : Switch) (b : Bool) : Switch → Option Bool :=
  fun t => if t = s then some b else options t

/-- The options that entries set, on top of those set so far. -/
def readOptions (options : Switch → Option Bool) : List (Datum × Datum) → Except Problem (Switch → Option Bool)
  | [] => .ok options
  | (k, v) :: rest => do
    let key ← textOf k
    match writtenOption? key with
    | none => throw (.unknownOption key.joined)
    | some s =>
      match truth? v with
      | none => throw (.notATruthValue key.joined)
      | some b => readOptions (setOption options s b) rest

/-- The entries of the options of a mapping with these entries. -/
def optionEntries (entries : List (Datum × Datum)) : Except Problem (List (Datum × Datum)) :=
  match Datum.lookup "options" entries with
  | none | some .null => .ok []
  | some (.map options) => .ok options
  | some _ => .error .optionsNotAMapping

/-- The output format that a mapping asks for. What is no scalar, or empty, asks for none. -/
def readFormat (entries : List (Datum × Datum)) : Except Problem Format := do
  match (Datum.lookup "format" entries).filter Datum.isScalar with
  | none => return .ofName "simple"
  | some d =>
    let name := (← textOf d).joined
    if name == "" then return .ofName "simple"
    else if formatNames.contains name then return .ofName name
    else throw (.unsupportedFormat name)

/-- The patterns of paths that a datum lists. -/
def readPaths : Datum → Except Problem (List Wide)
  | .text w => .ok [w]
  | .list items => (items.filter Datum.isScalar).mapM textOf
  | .bytes bs => .ok (bs.map fun b => .ofString (toString b.toNat))
  | _ => .ok []

/-- The settings in the entries of a mapping. -/
def ofEntries (entries : List (Datum × Datum)) : Except Problem Settings := do
  let options ← readOptions (fun _ => none) (← optionEntries entries)
  let format ← readFormat entries
  return { options, format, excludePaths := ← readPaths ((Datum.lookup "exclude_paths" entries).getD .null) }

/-- The depth to which data are looked into: the whole mapping, the collections in it, and what they hold. -/
def depth : Nat := 2

/-- The settings in the data of a file. Data that count as false stand for no settings at all. -/
def ofDatum (d : Datum) : Except Problem Settings :=
  if !d.truthy then ofEntries []
  else
    match d with
    | .map entries => ofEntries entries
    | _ => .error .notAMapping

/-! ## The policy of a run -/

/-- The first flag that names no option. -/
def unknownFlag? (flags : List (String × Bool)) : Option String :=
  (flags.find? fun (key, _) => (option? key).isNone).map (·.1)

/-- Whether a switch is on by the settings or by a flag. -/
def isOn (s : Settings) (flags : List (String × Bool)) (switch : Switch) : Bool :=
  (s.options switch).getD false || flags.any fun (key, on) => key == switch.key && on

/-- The policy of a run with these flags, and with this format if one is asked for. -/
def policy (s : Settings) (format : Option Format) (flags : List (String × Bool)) : Except Problem Policy :=
  match unknownFlag? flags with
  | some key => .error (.unknownFlag key)
  | none =>
    let markdown := format.getD s.format == .markdown
    match Policy.ofSwitches fun switch => if switch = .markdown then markdown else s.isOn flags switch with
    | .ok p => .ok p
    | .error c => .error (.conflict c)

end Settings

end DartSurvey
