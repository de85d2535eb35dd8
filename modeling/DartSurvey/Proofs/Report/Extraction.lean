import DartSurvey.Report.Extract
import Mathlib.Data.List.Forall2

/-!
# What a report lists

The report of a unit is compared with the unit itself: with its import directives, and with the
`Occurrence`s of instance fields in its classes, one for each name of each member that is not static.

- The imports of a unit list its import directives one by one (`forall₂_imports`), so there are none
  exactly when no directive is an import (`imports_eq_nil_iff`).
- The fields that are kept of a class are its occurrences that the policy accepts
  (`keptFields_eq_occurrences`), so a declaration has a record exactly when it is a class with such an
  occurrence (`record?_classOf`), and the class records are those of these classes in their order
  (`classRecords_eq`).
- No record is empty, and all have the path of the unit (`record_of_mem_report`).
- `report_lists_occurrences` puts this together: nothing is lost, nothing is listed twice, and the order is
  that of the source.
-/

namespace DartSurvey

open Report

/-! ## Imports -/

/-- Whether a directive is an import. -/
def Directive.isImport : Directive → Bool
  | .importing _ _ _ => true
  | .other _ => false

/-- That an import stands for a directive: with its address, or an empty one if it has none. -/
inductive Directive.ListedAs : Directive → Import → Prop
  | addressed (uri : String) (asName : Option String) (deferred : Bool) :
      ListedAs (.importing (some uri) asName deferred) ⟨uri, asName, deferred⟩
  | unaddressed (asName : Option String) (deferred : Bool) :
      ListedAs (.importing none asName deferred) ⟨"", asName, deferred⟩

/-- The imports of a unit stand for its import directives, one for each and in their order. -/
theorem SourceUnit.forall₂_imports (u : SourceUnit) :
    List.Forall₂ Directive.ListedAs (u.directives.filter Directive.isImport) u.imports := by
  unfold SourceUnit.imports
  induction u.directives with
  | nil => exact .nil
  | cons d rest ih =>
    cases d with
    | other keyword => exact ih
    | importing uri asName deferred =>
      cases uri with
      | none => exact .cons (.unaddressed asName deferred) ih
      | some uri => exact .cons (.addressed uri asName deferred) ih

/-- A unit has no imports exactly if none of its directives is one. -/
theorem SourceUnit.imports_eq_nil_iff (u : SourceUnit) :
    u.imports = [] ↔ ∀ d ∈ u.directives, d.isImport = false := by
  have hlength : (u.directives.filter Directive.isImport).length = u.imports.length :=
    u.forall₂_imports.length_eq
  constructor
  · intro h d hd
    rw [h, List.length_nil, List.length_eq_zero_iff, List.filter_eq_nil_iff] at hlength
    exact Bool.eq_false_iff.mpr (hlength d hd)
  · intro h
    have hnone : u.directives.filter Directive.isImport = [] := by
      rw [List.filter_eq_nil_iff]
      intro d hd
      rw [h d hd]
      exact Bool.false_ne_true
    rw [hnone, List.length_nil] at hlength
    exact List.length_eq_zero_iff.mp hlength.symm

/-! ## Fields -/

/-- An occurrence of an instance field: the field, and whether it is final. -/
structure Occurrence where
  field : Field
  isFinal : Bool

/-- Whether a policy accepts an occurrence. -/
def Policy.accepts (p : Policy) (o : Occurrence) : Bool := p.keeps o.field.name o.field.type o.isFinal

/-- The occurrences in a member: one for each name of fields that are not static, with the declared type
or, where that is missing or empty, `dynamic`. -/
def Member.occurrences : Member → List Occurrence
  | .fields names type isFinal false =>
    names.map fun name => ⟨⟨name, (type.filter (· != "")).getD "dynamic"⟩, isFinal⟩
  | .fields _ _ _ true => []
  | .other _ => []

/-- A class of a unit: its name and its members. -/
structure ClassDeclaration where
  name : String
  members : List Member

namespace ClassDeclaration

/-- The occurrences in a class: by members, and in each by names. -/
def occurrences (c : ClassDeclaration) : List Occurrence := c.members.flatMap Member.occurrences

/-- The fields of the occurrences that a policy accepts. -/
def acceptedFields (c : ClassDeclaration) (p : Policy) : List Field :=
  (c.occurrences.filter p.accepts).map Occurrence.field

end ClassDeclaration

/-- The class that a declaration declares. -/
def Declaration.class? : Declaration → Option ClassDeclaration
  | .classOf name members => some ⟨name, members⟩
  | .other _ _ => none

/-- The classes of a unit. -/
def SourceUnit.classes (u : SourceUnit) : List ClassDeclaration := u.declarations.filterMap Declaration.class?

theorem reportedType_eq (type : Option String) : reportedType type = (type.filter (· != "")).getD "dynamic" := by
  cases type with
  | none => rfl
  | some t =>
    by_cases h : t = ""
    · simp [reportedType, Option.filter, h]
    · simp [reportedType, Option.filter, h]

/-- The fields that are kept of a member are those of its accepted occurrences. -/
theorem Member.keptFields_eq_occurrences (p : Policy) (m : Member) :
    m.keptFields p = (m.occurrences.filter p.accepts).map Occurrence.field := by
  cases m with
  | other kind => rfl
  | fields names type isFinal isStatic =>
    cases isStatic with
    | true => rfl
    | false =>
      simp only [Member.keptFields, Member.occurrences, reportedType_eq, List.filter_map, List.map_map]
      rfl

/-- The fields that are kept of a class are those of its accepted occurrences. -/
theorem ClassDeclaration.keptFields_eq_occurrences (p : Policy) (c : ClassDeclaration) :
    keptFields p c.members = c.acceptedFields p := by
  unfold keptFields acceptedFields occurrences
  rw [List.filter_flatMap, List.map_flatMap]
  exact List.flatMap_congr fun m _ => m.keptFields_eq_occurrences p

/-! ## Records -/

theorem ClassDeclaration.acceptedFields_eq_nil_iff (p : Policy) (c : ClassDeclaration) :
    c.acceptedFields p = [] ↔ c.occurrences.any p.accepts = false := by
  rw [acceptedFields, List.map_eq_nil_iff, List.filter_eq_nil_iff, List.any_eq_false]

/-- A class has a record exactly if the policy accepts one of its occurrences. -/
theorem Declaration.record?_classOf (p : Policy) (path : Value) (c : ClassDeclaration) :
    Declaration.record? p path (.classOf c.name c.members) =
      if c.occurrences.any p.accepts then some (.classFields c.name (c.acceptedFields p) path) else none := by
  simp only [Declaration.record?, c.keptFields_eq_occurrences]
  have hnone := c.acceptedFields_eq_nil_iff p
  cases hfields : c.acceptedFields p with
  | nil => rw [hnone.mp hfields]; rfl
  | cons f fs =>
    have hsome : c.occurrences.any p.accepts = true := by
      rw [← Bool.not_eq_false, ← hnone, hfields]
      exact List.cons_ne_nil f fs
    rw [hsome]
    rfl

/-- The class records are those of the classes with an accepted occurrence. -/
theorem SourceUnit.classRecords_eq (u : SourceUnit) {p : Policy} (h : p.on .noClasses = false) (path : Value) :
    u.classRecords p path = (u.classes.filter fun c => c.occurrences.any p.accepts).map fun c =>
      .classFields c.name (c.acceptedFields p) path := by
  unfold SourceUnit.classRecords SourceUnit.classes
  rw [h, if_neg Bool.false_ne_true]
  induction u.declarations with
  | nil => rfl
  | cons d rest ih =>
    cases d with
    | other kind name => exact ih
    | classOf name members =>
      have hclass : Declaration.class? (.classOf name members) = some ⟨name, members⟩ := rfl
      have hrecord := Declaration.record?_classOf p path ⟨name, members⟩
      simp only at hrecord
      rw [List.filterMap_cons, hrecord, List.filterMap_cons, hclass]
      by_cases hany : (ClassDeclaration.mk name members).occurrences.any p.accepts = true
      · simp only [hany, ↓reduceIte, List.filter_cons_of_pos, List.map_cons, ih]
      · simp only [hany, Bool.false_eq_true, ↓reduceIte, not_false_eq_true, List.filter_cons_of_neg, ih]

/-- The records of a unit have the path that is given, and none is empty. -/
theorem SourceUnit.record_of_mem_report (u : SourceUnit) {p : Policy} {path : Option String} {r : Record}
    (hr : r ∈ u.report p path) : r.path = .ofText? path ∧ r.itemTexts ≠ [] := by
  rcases List.mem_append.mp hr with hr | hr
  · unfold importRecords at hr
    split at hr
    · exact absurd hr List.not_mem_nil
    · rename_i hlisted
      rw [List.mem_singleton.mp hr]
      refine ⟨rfl, ?_⟩
      simp only [Bool.or_eq_true, not_or, List.isEmpty_iff] at hlisted
      simpa [Record.itemTexts] using hlisted.2
  · cases hon : p.on .noClasses with
    | true => simp [classRecords, hon] at hr
    | false =>
      rw [u.classRecords_eq hon] at hr
      obtain ⟨c, hc, rfl⟩ := List.mem_map.mp hr
      refine ⟨rfl, ?_⟩
      have hany : c.occurrences.any p.accepts = true := (List.mem_filter.mp hc).2
      have hfields : c.acceptedFields p ≠ [] := by
        intro hnil
        rw [(c.acceptedFields_eq_nil_iff p).mp hnil] at hany
        exact Bool.false_ne_true hany
      simpa [Record.itemTexts] using hfields

/-- **Extraction.** The report of a unit has first its imports record, which lists every import directive
in order, unless the policy leaves imports out or the unit has none; then, unless the policy leaves classes
out, one record for each class with an occurrence that the policy accepts, which lists exactly those in
order. No record is empty, and all have the path that is given. -/
theorem SourceUnit.report_lists_occurrences (u : SourceUnit) (p : Policy) (path : Option String) :
    ∃ imports classes, u.report p path = imports ++ classes ∧
      ((p.on .noImports = true ∨ ∀ d ∈ u.directives, d.isImport = false) → imports = []) ∧
      (p.on .noImports = false → (∃ d ∈ u.directives, d.isImport = true) →
        ∃ listed, imports = [.fileImports listed (.ofText? path)] ∧
          List.Forall₂ Directive.ListedAs (u.directives.filter Directive.isImport) listed) ∧
      (p.on .noClasses = true → classes = []) ∧
      (p.on .noClasses = false →
        classes = (u.classes.filter fun c => c.occurrences.any p.accepts).map fun c =>
          .classFields c.name (c.acceptedFields p) (.ofText? path)) ∧
      ∀ r ∈ u.report p path, r.path = .ofText? path ∧ r.itemTexts ≠ [] := by
  have hsome : (∃ d ∈ u.directives, d.isImport = true) → u.imports ≠ [] := by
    rintro ⟨d, hd, himport⟩ hnil
    rw [u.imports_eq_nil_iff.mp hnil d hd] at himport
    exact Bool.false_ne_true himport
  refine ⟨u.importRecords p (.ofText? path), u.classRecords p (.ofText? path), rfl, ?_, ?_, ?_, ?_, ?_⟩
  · rintro (h | h)
    · simp [importRecords, h]
    · simp [importRecords, u.imports_eq_nil_iff.mpr h]
  · intro hon himport
    exact ⟨u.imports, by simp [importRecords, hon, hsome himport], u.forall₂_imports⟩
  · intro h
    simp [classRecords, h]
  · intro h
    exact u.classRecords_eq h _
  · exact fun r hr => u.record_of_mem_report hr

end DartSurvey
