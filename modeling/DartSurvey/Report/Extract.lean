import DartSurvey.Policy
import DartSurvey.Report.Record
import DartSurvey.SourceUnit

/-! # The report of a source unit

`SourceUnit.report` lists the records of a unit under a policy: first one record with all imports, then
one record for each class that has a field left after filtering. A unit without imports has no imports
record, and a class without a field left has none either.
-/

namespace DartSurvey

open Report

/-- The import a directive stands for; one without an address has an empty one. -/
def Directive.import? : Directive → Option Import
  | .importing uri asName deferred => some ⟨uri.getD "", asName, deferred⟩
  | .other _ => none

/-- The imports of a unit. -/
def SourceUnit.imports (u : SourceUnit) : List Import := u.directives.filterMap Directive.import?

/-- The type a field is reported with: the declared one, or `dynamic` without one. -/
def reportedType (type : Option String) : String :=
  match type with
  | none => "dynamic"
  | some t => if t == "" then "dynamic" else t

/-- The fields of a member that the policy keeps; a static one has none. -/
def Member.keptFields (p : Policy) : Member → List Field
  | .fields names type isFinal isStatic =>
    if isStatic then []
    else
      (names.filter fun name => p.keeps name (reportedType type) isFinal).map fun name =>
        ⟨name, reportedType type⟩
  | .other _ => []

/-- The fields of a class that the policy keeps. -/
def keptFields (p : Policy) (members : List Member) : List Field := members.flatMap (Member.keptFields p)

/-- The record of a declaration: a class with a field left has one. -/
def Declaration.record? (p : Policy) (path : Value) : Declaration → Option Record
  | .classOf name members =>
    match keptFields p members with
    | [] => none
    | fields => some (.classFields name fields path)
  | .other _ _ => none

/-- The imports record of a unit, if the policy wants it and the unit has imports. -/
def SourceUnit.importRecords (u : SourceUnit) (p : Policy) (path : Value) : List Record :=
  if p.on .noImports || u.imports.isEmpty then [] else [.fileImports u.imports path]

/-- The class records of a unit, if the policy wants them. -/
def SourceUnit.classRecords (u : SourceUnit) (p : Policy) (path : Value) : List Record :=
  if p.on .noClasses then [] else u.declarations.filterMap (Declaration.record? p path)

/-- The records of a unit. -/
def SourceUnit.report (u : SourceUnit) (p : Policy) (path : Option String) : List Record :=
  u.importRecords p (.ofText? path) ++ u.classRecords p (.ofText? path)

end DartSurvey
