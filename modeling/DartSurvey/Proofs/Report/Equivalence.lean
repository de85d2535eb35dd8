import DartSurvey.Proofs.Report.Extraction
import Mathlib.Logic.Relation

/-!
# Units with equal reports

Two units are equivalent if one becomes the other by edits of a source that no report shows, forth and
back in any number and at any places.

- What is of no account can be put in anywhere (`Member.Idle`, `Declaration.Idle`, and directives other
  than imports): it has no fields (`Member.keptFields_idle`) and no record (`Declaration.record?_idle`).
- A declaration of several names can be split in two (`MemberEdit.split`): the fields of the parts are
  those of the whole (`Member.keptFields_append`).
- One edit of the members of a class leaves its fields as they are (`MemberEdit.keptFields_eq`), and one
  edit of a unit its imports and its class records (`UnitEdit.report_eq`).
- `SourceUnit.report_eq_of_equivalent`: equivalent units have the same report under every policy.
-/

namespace DartSurvey

open Report

/-! ## Edits -/

/-- A member that is no field declaration, or a static one. -/
def Member.Idle : Member → Prop
  | .fields _ _ _ isStatic => isStatic = true
  | .other _ => True

/-- A declaration that is no class, or a class all of whose members are idle. -/
def Declaration.Idle : Declaration → Prop
  | .classOf _ members => ∀ m ∈ members, m.Idle
  | .other _ _ => True

/-- One edit of the members of a class. -/
inductive MemberEdit : List Member → List Member → Prop
  /-- An idle member is put in. -/
  | insert (before behind : List Member) {m : Member} (h : m.Idle) :
      MemberEdit (before ++ behind) (before ++ m :: behind)
  /-- A declaration of fields becomes two, with a part of the names each. -/
  | split (before behind : List Member) (names names' : List String) (type : Option String)
      (isFinal isStatic : Bool) :
      MemberEdit (before ++ .fields (names ++ names') type isFinal isStatic :: behind)
        (before ++ .fields names type isFinal isStatic :: .fields names' type isFinal isStatic :: behind)

/-- One edit of a unit. -/
inductive UnitEdit : SourceUnit → SourceUnit → Prop
  /-- A directive that is no import is put in. -/
  | directive (before behind : List Directive) {d : Directive} (h : d.isImport = false)
      (declarations : List Declaration) (diagnostics : List String) :
      UnitEdit ⟨before ++ behind, declarations, diagnostics⟩ ⟨before ++ d :: behind, declarations, diagnostics⟩
  /-- An idle declaration is put in. -/
  | declaration (before behind : List Declaration) {d : Declaration} (h : d.Idle)
      (directives : List Directive) (diagnostics : List String) :
      UnitEdit ⟨directives, before ++ behind, diagnostics⟩ ⟨directives, before ++ d :: behind, diagnostics⟩
  /-- The members of a class are edited. -/
  | members (before behind : List Declaration) (name : String) {members members' : List Member}
      (h : MemberEdit members members') (directives : List Directive) (diagnostics : List String) :
      UnitEdit ⟨directives, before ++ .classOf name members :: behind, diagnostics⟩
        ⟨directives, before ++ .classOf name members' :: behind, diagnostics⟩

/-- Units that edits lead to from one another, forth or back. -/
def SourceUnit.Equivalent : SourceUnit → SourceUnit → Prop := Relation.EqvGen UnitEdit

/-! ## Members -/

theorem keptFields_append (p : Policy) (members members' : List Member) :
    keptFields p (members ++ members') = keptFields p members ++ keptFields p members' :=
  List.flatMap_append

theorem keptFields_cons (p : Policy) (m : Member) (members : List Member) :
    keptFields p (m :: members) = m.keptFields p ++ keptFields p members :=
  List.flatMap_cons

/-- An idle member has no field to keep. -/
theorem Member.keptFields_idle (p : Policy) {m : Member} (h : m.Idle) : m.keptFields p = [] := by
  cases m with
  | other kind => rfl
  | fields names type isFinal isStatic => exact if_pos h

/-- The fields of a declaration in two parts are those of the parts. -/
theorem Member.keptFields_append (p : Policy) (names names' : List String) (type : Option String)
    (isFinal isStatic : Bool) :
    (Member.fields (names ++ names') type isFinal isStatic).keptFields p =
      (Member.fields names type isFinal isStatic).keptFields p ++
        (Member.fields names' type isFinal isStatic).keptFields p := by
  cases isStatic with
  | true => rfl
  | false => simp [Member.keptFields]

/-- One edit of the members leaves the fields that are kept. -/
theorem MemberEdit.keptFields_eq {members members' : List Member} (h : MemberEdit members members')
    (p : Policy) : keptFields p members = keptFields p members' := by
  cases h with
  | insert before behind hidle =>
    rw [keptFields_append, keptFields_append, keptFields_cons, Member.keptFields_idle p hidle,
      List.nil_append]
  | split before behind names names' type isFinal isStatic =>
    rw [keptFields_append, keptFields_append, keptFields_cons, keptFields_cons, keptFields_cons,
      Member.keptFields_append, List.append_assoc]

/-! ## Declarations and units -/

/-- The record of a class depends on its name and on the fields that are kept. -/
theorem Declaration.record?_congr {p : Policy} {members members' : List Member}
    (h : keptFields p members = keptFields p members') (path : Value) (name : String) :
    Declaration.record? p path (.classOf name members) = Declaration.record? p path (.classOf name members') := by
  simp only [Declaration.record?, h]

/-- An idle declaration has no record. -/
theorem Declaration.record?_idle (p : Policy) (path : Value) {d : Declaration} (h : d.Idle) :
    d.record? p path = none := by
  cases d with
  | other kind name => rfl
  | classOf name members =>
    have hnone : keptFields p members = [] :=
      List.flatMap_eq_nil_iff.mpr fun m hm => Member.keptFields_idle p (h m hm)
    simp only [Declaration.record?, hnone]

theorem Directive.import?_eq_none {d : Directive} (h : d.isImport = false) : d.import? = none := by
  cases d with
  | importing uri asName deferred => cases h
  | other keyword => rfl

theorem filterMap_insert {α β : Type} {f : α → Option β} {a : α} (h : f a = none) (before behind : List α) :
    (before ++ a :: behind).filterMap f = (before ++ behind).filterMap f := by
  rw [List.filterMap_append, List.filterMap_append, List.filterMap_cons_none h]

theorem filterMap_replace {α β : Type} {f : α → Option β} {a a' : α} (h : f a = f a') (before behind : List α) :
    (before ++ a :: behind).filterMap f = (before ++ a' :: behind).filterMap f := by
  rw [List.filterMap_append, List.filterMap_append, List.filterMap_cons, List.filterMap_cons, h]

/-- The report depends on the imports of a unit and on the records of its declarations. -/
theorem SourceUnit.report_congr {u v : SourceUnit} {p : Policy} {path : Option String}
    (himports : u.imports = v.imports)
    (hrecords : u.declarations.filterMap (Declaration.record? p (.ofText? path)) =
      v.declarations.filterMap (Declaration.record? p (.ofText? path))) :
    u.report p path = v.report p path := by
  simp only [report, importRecords, classRecords, himports, hrecords]

/-- One edit of a unit leaves its report. -/
theorem UnitEdit.report_eq {u v : SourceUnit} (h : UnitEdit u v) (p : Policy) (path : Option String) :
    u.report p path = v.report p path := by
  cases h with
  | directive before behind hother declarations diagnostics =>
    exact SourceUnit.report_congr (filterMap_insert (Directive.import?_eq_none hother) before behind).symm rfl
  | declaration before behind hidle directives diagnostics =>
    exact SourceUnit.report_congr rfl (filterMap_insert (Declaration.record?_idle p _ hidle) before behind).symm
  | members before behind name hedit directives diagnostics =>
    have hrecord := Declaration.record?_congr (hedit.keptFields_eq p) (.ofText? path) name
    exact SourceUnit.report_congr rfl (filterMap_replace hrecord before behind)

/-- **Equivalent units have equal reports.** Edits that put in or take out directives other than imports,
declarations other than classes, members other than fields, static fields and classes with nothing else,
and edits that split or join declarations of fields of one kind, do not change the report, however many
there are and wherever they are made. -/
theorem SourceUnit.report_eq_of_equivalent {u v : SourceUnit} (h : u.Equivalent v) (p : Policy)
    (path : Option String) : u.report p path = v.report p path := by
  induction h with
  | rel u v hedit => exact hedit.report_eq p path
  | refl u => rfl
  | symm u v _ ih => exact ih.symm
  | trans u v w _ _ ih ih' => exact ih.trans ih'

/-- A part of a library, with a class of two fields. -/
def pair : SourceUnit :=
  ⟨[.other "part of"], [.classOf "Pair" [.fields ["a", "b"] (some "int") false false]], []⟩

/-- The two fields declared one by one with a static field between them, an empty class behind the class
and no directive. -/
def scattered : SourceUnit :=
  ⟨[], [.classOf "Pair" [.fields ["a"] (some "int") false false, .fields ["count"] none false true,
    .fields ["b"] (some "int") false false], .classOf "Empty" []], []⟩

/-- The one unit becomes the other by four edits, the last of which takes the directive out. -/
theorem SourceUnit.report_eq_of_equivalent_scattered :
    pair.Equivalent scattered ∧
      pair.report .standard none = scattered.report .standard none ∧
      pair.report .standard none = [.classFields "Pair" [⟨"a", "int"⟩, ⟨"b", "int"⟩] .null] := by
  have hsplit : MemberEdit [.fields ["a", "b"] (some "int") false false]
      [.fields ["a"] (some "int") false false, .fields ["b"] (some "int") false false] :=
    .split [] [] ["a"] ["b"] (some "int") false false
  have hstatic : MemberEdit
      [.fields ["a"] (some "int") false false, .fields ["b"] (some "int") false false]
      [.fields ["a"] (some "int") false false, .fields ["count"] none false true,
        .fields ["b"] (some "int") false false] :=
    .insert [.fields ["a"] (some "int") false false] [.fields ["b"] (some "int") false false] rfl
  have hempty : (Declaration.classOf "Empty" []).Idle := by simp [Declaration.Idle]
  have hequivalent : pair.Equivalent scattered := by
    apply Relation.EqvGen.trans _ _ _ (.rel _ _ (.members [] [] "Pair" hsplit _ _))
    apply Relation.EqvGen.trans _ _ _ (.rel _ _ (.members [] [] "Pair" hstatic _ _))
    apply Relation.EqvGen.trans _ _ _ (.rel _ _ (.declaration [_] [] hempty _ _))
    exact .symm _ _ (.rel _ _ (.directive [] [] rfl _ _))
  exact ⟨hequivalent, SourceUnit.report_eq_of_equivalent hequivalent .standard none, by rfl⟩

end DartSurvey
