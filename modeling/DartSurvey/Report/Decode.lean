import DartSurvey.Report.Record

/-! # Records read back from data

`Record.ofValue` rebuilds a record from a value of any kind. Names, types and addresses of any kind are
read as their text, a missing or false list is empty, and extra keys are ignored.
-/

namespace DartSurvey.Report

/-- Why a value is no record, or no part of one. -/
inductive DecodeError where
  /-- The value says neither that it is a class record nor that it is an imports record. -/
  | neitherKind
  /-- A field lacks a key. -/
  | missingKey (key : String)
  /-- A value of this kind cannot be searched, indexed by a key or gone through. -/
  | unsuited
  /-- An import, or the imports of a file, are read from a value that is not an object. -/
  | notAnObject
deriving DecidableEq

/-- The words for an error, where it has any. -/
def DecodeError.message : DecodeError → Option String
  | .neitherKind => some "Mapping does not describe a class or imports record"
  | .missingKey key => some (Text.quoted key)
  | .unsuited => none
  | .notAnObject => none

/-- The field a value describes. -/
def Field.ofValue : Value → Except DecodeError Field
  | .object entries =>
    match Value.lookup "name" entries with
    | none => .error (.missingKey "name")
    | some name =>
      match Value.lookup "type" entries with
      | none => .error (.missingKey "type")
      | some type => .ok ⟨name.shown, type.shown⟩
  | _ => .error .unsuited

/-- The import a value describes. -/
def Import.ofValue : Value → Except DecodeError Import
  | .object entries =>
    let uri := (Value.lookup "uri" entries).getD .null
    let name := (Value.lookup "prefix" entries).getD .null
    let deferred := (Value.lookup "deferred" entries).getD (.bool false)
    .ok {
      uri := if uri.truthy then uri.shown else ""
      asName := match name with
        | .null => none
        | v => some v.shown
      deferred := deferred.truthy }
  | _ => .error .notAnObject

/-- The values a value is gone through by: the items of a list, the characters of a text, the keys of an
object. -/
def elements : Value → Option (List Value)
  | .list items => some items
  | .text s => some (s.toList.map fun c => .text (String.singleton c))
  | .object entries => some (entries.map fun e => .text e.1)
  | _ => none

/-- The elements under a key; a missing or false value has none. -/
def elementsAt (key : String) (entries : List (String × Value)) : Except DecodeError (List Value) :=
  match Value.lookup key entries with
  | none => .ok []
  | some v => if v.truthy then (match elements v with
      | some vs => .ok vs
      | none => .error .unsuited) else .ok []

/-- Whether the characters of one text stand together in another. -/
def isWithin (part : List Char) : List Char → Bool
  | [] => part.isEmpty
  | c :: cs => part.isPrefixOf (c :: cs) || isWithin part cs

/-- Whether a value has `key`: as a key of an object, an item of a list, or a part of a text. -/
def mentions (key : String) : Value → Except DecodeError Bool
  | .object entries => .ok (Value.lookup key entries).isSome
  | .list items => .ok (items.any fun v => v.same (.text key))
  | .text s => .ok (isWithin key.toList s.toList)
  | _ => .error .unsuited

/-- The class record a value describes. -/
def Record.classOfValue : Value → Except DecodeError Record
  | .object entries =>
    match Value.lookup "className" entries with
    | none => .error (.missingKey "className")
    | some name => do
      let fields ← (← elementsAt "fields" entries).mapM Field.ofValue
      return .classFields name.shown fields ((Value.lookup "filePath" entries).getD .null)
  | _ => .error .unsuited

/-- The imports record a value describes. -/
def Record.importsOfValue : Value → Except DecodeError Record
  | .object entries => do
    let imports ← (← elementsAt "imports" entries).mapM Import.ofValue
    return .fileImports imports ((Value.lookup "filePath" entries).getD .null)
  | _ => .error .notAnObject

/-- The record a value describes. -/
def Record.ofValue (v : Value) : Except DecodeError Record := do
  if ← mentions "className" v then Record.classOfValue v
  else if ← mentions "imports" v then Record.importsOfValue v
  else .error .neitherKind

end DartSurvey.Report
