import DartSurvey.Proofs.Report.Extraction
import Mathlib.Data.List.Forall2

/-!
# Reports under several filters

Policies are compared by the reports they give of one unit.

- The union of two policies has the switches of both (`Policy.union`), unless these exclude each other.
  It keeps a field exactly if both keep it (`Policy.keeps_union`), so a class has fewer fields under it
  (`keptFields_union_sublist`), and a declaration that still has a record has one under either policy
  (`Declaration.record?_union`).
- `SourceUnit.report_union`: the report under the union is a part of the report under either policy.
- Final fields and other fields are separate: the fields that a policy keeps are an interleaving
  (`Interleaving`) of those it keeps with final fields only and of those it keeps without final fields
  (`keptFields_interleaving`).
-/

namespace DartSurvey

open Report

/-! ## Unions of policies -/

namespace Policy

/-- The policy with the switches of both. -/
def union (p q : Policy) : Except Conflict Policy := ofSwitches fun s => p.on s || q.on s

/-- The policy with a single switch. -/
def only (s : Switch) : Policy := ⟨fun t => t == s, by cases s <;> rfl⟩

theorem ofSwitches_eq_ok_iff {on : Switch → Bool} {p : Policy} : ofSwitches on = .ok p ↔ p.on = on := by
  obtain ⟨on', hconsistent⟩ := p
  unfold ofSwitches
  constructor
  · intro h
    split at h
    · cases h
      rfl
    · cases h
  · rintro rfl
    exact dif_pos hconsistent

theorem on_union {p q r : Policy} (h : p.union q = .ok r) (s : Switch) : r.on s = (p.on s || q.on s) :=
  congrFun (ofSwitches_eq_ok_iff.mp h) s

/-- The union of two policies exists if they do not exclude each other. -/
theorem exists_union {p q : Policy}
    (h : ((p.on .finalOnly || q.on .finalOnly) && (p.on .noFinal || q.on .noFinal)) = false) :
    ∃ r, p.union q = .ok r :=
  ⟨⟨fun s => p.on s || q.on s, h⟩, ofSwitches_eq_ok_iff.mpr rfl⟩

section Union

variable {p q r : Policy}

theorem passesVisibility_union (h : p.union q = .ok r) (name : String) :
    r.passesVisibility name = (p.passesVisibility name && q.passesVisibility name) := by
  simp only [passesVisibility, on_union h]
  grind

theorem passesFinality_union (h : p.union q = .ok r) (isFinal : Bool) :
    r.passesFinality isFinal = (p.passesFinality isFinal && q.passesFinality isFinal) := by
  simp only [passesFinality, on_union h]
  grind

theorem passesPrimitives_union (h : p.union q = .ok r) (type : String) :
    r.passesPrimitives type = (p.passesPrimitives type && q.passesPrimitives type) := by
  simp only [passesPrimitives, on_union h]
  grind

/-- The union of two policies keeps the fields that both keep. -/
theorem keeps_union (h : p.union q = .ok r) (name type : String) (isFinal : Bool) :
    r.keeps name type isFinal = (p.keeps name type isFinal && q.keeps name type isFinal) := by
  simp only [keeps, passesVisibility_union h, passesFinality_union h, passesPrimitives_union h]
  ac_rfl

theorem accepts_union (h : p.union q = .ok r) (o : Occurrence) :
    r.accepts o = (p.accepts o && q.accepts o) :=
  keeps_union h o.field.name o.field.type o.isFinal

end Union

theorem accepts_finalOnly : (only .finalOnly).accepts = Occurrence.isFinal := by
  funext ⟨field, isFinal⟩
  cases isFinal <;> rfl

theorem accepts_noFinal : (only .noFinal).accepts = fun o => !o.isFinal := by
  funext ⟨field, isFinal⟩
  cases isFinal <;> rfl

end Policy

/-! ## Parts of a report -/

/-- That a record is a part of another: the same imports, or some fields of the same class. -/
inductive Report.Record.Within : Record → Record → Prop
  | imports (listed : List Import) (path : Value) :
      Within (.fileImports listed path) (.fileImports listed path)
  | fields (name : String) {part whole : List Field} (path : Value) (h : part.Sublist whole) :
      Within (.classFields name part path) (.classFields name whole path)

/-- A list of results is matched in another if the results are, one by one. -/
theorem sublistForall₂_filterMap {α β : Type} {R : β → β → Prop} {f g : α → Option β}
    (h : ∀ a x, f a = some x → ∃ y, g a = some y ∧ R x y) (as : List α) :
    List.SublistForall₂ R (as.filterMap f) (as.filterMap g) := by
  induction as with
  | nil => exact .nil
  | cons a as ih =>
    cases hf : f a with
    | none =>
      rw [List.filterMap_cons_none hf]
      cases hg : g a with
      | none => rwa [List.filterMap_cons_none hg]
      | some y => rw [List.filterMap_cons_some hg]; exact .cons_right ih
    | some x =>
      obtain ⟨y, hg, hxy⟩ := h a x hf
      rw [List.filterMap_cons_some hf, List.filterMap_cons_some hg]
      exact .cons hxy ih

theorem sublistForall₂_append {α : Type} {R : α → α → Prop} {as bs cs ds : List α}
    (h : List.SublistForall₂ R as bs) (h' : List.SublistForall₂ R cs ds) :
    List.SublistForall₂ R (as ++ cs) (bs ++ ds) := by
  rw [List.sublistForall₂_iff] at h h' ⊢
  obtain ⟨bs', hall, hsub⟩ := h
  obtain ⟨ds', hall', hsub'⟩ := h'
  exact ⟨bs' ++ ds', List.rel_append hall hall', hsub.append hsub'⟩

theorem Declaration.record?_eq_some_iff (p : Policy) (path : Value) (name : String) (members : List Member)
    (x : Record) : Declaration.record? p path (.classOf name members) = some x ↔
      keptFields p members ≠ [] ∧ x = .classFields name (keptFields p members) path := by
  simp only [Declaration.record?]
  cases keptFields p members with
  | nil => simp
  | cons f fs => simp [eq_comm]

section Parts

variable {p q r : Policy}

/-- The fields of a class that the union of two policies keeps are those of the occurrences that the first
accepts and then the second. -/
theorem keptFields_union (h : p.union q = .ok r) (c : ClassDeclaration) :
    keptFields r c.members = ((c.occurrences.filter p.accepts).filter q.accepts).map Occurrence.field := by
  rw [c.keptFields_eq_occurrences, ClassDeclaration.acceptedFields, List.filter_filter]
  congr 1
  refine List.filter_congr fun o _ => ?_
  rw [Policy.accepts_union h, Bool.and_comm]

/-- A class loses fields under the union of two policies, and the others stay in their order. -/
theorem keptFields_union_sublist (h : p.union q = .ok r) (c : ClassDeclaration) :
    (keptFields r c.members).Sublist (keptFields p c.members) := by
  rw [keptFields_union h, c.keptFields_eq_occurrences, ClassDeclaration.acceptedFields]
  exact List.filter_sublist.map _

/-- A declaration with a record under the union of two policies has one under either, and the first is a
part of the second. -/
theorem Declaration.record?_union (h : p.union q = .ok r) {path : Value} {d : Declaration} {x : Record}
    (hx : d.record? r path = some x) : ∃ y, d.record? p path = some y ∧ x.Within y := by
  cases d with
  | other kind name => cases hx
  | classOf name members =>
    obtain ⟨hsome, rfl⟩ := (record?_eq_some_iff r path name members x).mp hx
    have hsub := keptFields_union_sublist h ⟨name, members⟩
    -- a class that the first policy leaves without fields has none under the union
    have hne : keptFields p members ≠ [] := by
      intro hnil
      rw [hnil, List.sublist_nil] at hsub
      exact hsome hsub
    exact ⟨_, (record?_eq_some_iff p path name members _).mpr ⟨hne, rfl⟩, .fields name path hsub⟩

theorem SourceUnit.classRecords_union (h : p.union q = .ok r) (u : SourceUnit) (path : Value) :
    List.SublistForall₂ Record.Within (u.classRecords r path) (u.classRecords p path) := by
  unfold SourceUnit.classRecords
  cases hr : r.on .noClasses with
  | true => exact .nil
  | false =>
    rw [Policy.on_union h, Bool.or_eq_false_iff] at hr
    rw [hr.1]
    exact sublistForall₂_filterMap (fun d x hx => Declaration.record?_union h hx) u.declarations

theorem SourceUnit.importRecords_union (h : p.union q = .ok r) (u : SourceUnit) (path : Value) :
    List.SublistForall₂ Record.Within (u.importRecords r path) (u.importRecords p path) := by
  unfold SourceUnit.importRecords
  cases hr : r.on .noImports || u.imports.isEmpty with
  | true => exact .nil
  | false =>
    rw [Policy.on_union h, Bool.or_eq_false_iff, Bool.or_eq_false_iff] at hr
    rw [hr.1.1, hr.2]
    exact .cons (.imports u.imports path) .nil

end Parts

/-- **More filters only remove.** If two policies have a union, it keeps a field exactly if both keep
it. The report under the union is a part of the report under the first: its records match some of
those, in their order and one by one, the imports record the same and each class record with the same
name and path and fewer fields in the same order. -/
theorem SourceUnit.report_union {p q r : Policy} (h : p.union q = .ok r) (u : SourceUnit)
    (path : Option String) :
    (∀ name type isFinal, r.keeps name type isFinal = true ↔
      p.keeps name type isFinal = true ∧ q.keeps name type isFinal = true) ∧
    List.SublistForall₂ Record.Within (u.report r path) (u.report p path) := by
  constructor
  · intro name type isFinal
    rw [Policy.keeps_union h, Bool.and_eq_true]
  · exact sublistForall₂_append (u.importRecords_union h _) (u.classRecords_union h _)

/-- A unit with two classes of one name, whose fields are final or private or both. -/
def twins : SourceUnit where
  directives := [.importing (some "a.dart") none false]
  declarations := [.classOf "Twin" [.fields ["a", "_b"] (some "int") true false, .fields ["_b"] none false false],
    .classOf "Twin" [.fields ["_c", "d"] none false false]]

/-- The policy with private and final fields only. -/
def privateFinals : Policy := ⟨fun s => s == .privateOnly || s == .finalOnly, rfl⟩

/-- Of the private fields one is final; the second class is left with none. -/
theorem SourceUnit.report_union_twins :
    (Policy.only .privateOnly).union (.only .finalOnly) = .ok privateFinals ∧
      twins.report privateFinals none =
        [.fileImports [⟨"a.dart", none, false⟩] .null, .classFields "Twin" [⟨"_b", "int"⟩] .null] ∧
      List.SublistForall₂ Record.Within (twins.report privateFinals none)
        (twins.report (.only .privateOnly) none) := by
  have hunion : (Policy.only .privateOnly).union (.only .finalOnly) = .ok privateFinals := rfl
  exact ⟨hunion, by rfl, (SourceUnit.report_union hunion twins none).2⟩

/-! ## Final fields and the others -/

/-- That a list is an interleaving of two lists, each in its order. -/
inductive Interleaving {α : Type} : List α → List α → List α → Prop
  | nil : Interleaving [] [] []
  | left {a : α} {as bs cs : List α} (h : Interleaving as bs cs) : Interleaving (a :: as) bs (a :: cs)
  | right {b : α} {as bs cs : List α} (h : Interleaving as bs cs) : Interleaving as (b :: bs) (b :: cs)

namespace Interleaving

variable {α β : Type} {as bs cs : List α}

theorem sublist_left (h : Interleaving as bs cs) : as.Sublist cs := by
  induction h with
  | nil => exact .slnil
  | left _ ih => exact ih.cons_cons _
  | right _ ih => exact ih.cons _

theorem sublist_right (h : Interleaving as bs cs) : bs.Sublist cs := by
  induction h with
  | nil => exact .slnil
  | left _ ih => exact ih.cons _
  | right _ ih => exact ih.cons_cons _

theorem perm (h : Interleaving as bs cs) : (as ++ bs).Perm cs := by
  induction h with
  | nil => exact .nil
  | left _ ih => exact ih.cons _
  | right _ ih => exact List.perm_middle.trans (ih.cons _)

theorem map (f : α → β) (h : Interleaving as bs cs) : Interleaving (as.map f) (bs.map f) (cs.map f) := by
  induction h with
  | nil => exact .nil
  | left _ ih => exact .left ih
  | right _ ih => exact .right ih

/-- What a test accepts and what it refuses interleave to the whole. -/
theorem filter (test : α → Bool) (cs : List α) :
    Interleaving (cs.filter test) (cs.filter fun c => !test c) cs := by
  induction cs with
  | nil => exact .nil
  | cons c cs ih =>
    cases hc : test c with
    | true => simpa [hc] using ih.left
    | false => simpa [hc] using ih.right

end Interleaving

/-- **Final fields and the others.** A policy that does not ask whether fields are final can be given
either switch that does. The fields that it keeps of a class are an interleaving of those kept with final
fields only and of those kept without final fields: both stand in it in their order, and together they
are all of it. -/
theorem keptFields_interleaving {p : Policy} (hfinal : p.on .finalOnly = false)
    (hno : p.on .noFinal = false) (c : ClassDeclaration) :
    ∃ finals others, p.union (.only .finalOnly) = .ok finals ∧ p.union (.only .noFinal) = .ok others ∧
      Interleaving (keptFields finals c.members) (keptFields others c.members) (keptFields p c.members) ∧
      (keptFields finals c.members).Sublist (keptFields p c.members) ∧
      (keptFields others c.members).Sublist (keptFields p c.members) ∧
      (keptFields finals c.members ++ keptFields others c.members).Perm (keptFields p c.members) := by
  obtain ⟨finals, hfinals⟩ : ∃ r, p.union (.only .finalOnly) = .ok r :=
    Policy.exists_union (by rw [hfinal, hno]; rfl)
  obtain ⟨others, hothers⟩ : ∃ r, p.union (.only .noFinal) = .ok r :=
    Policy.exists_union (by rw [hfinal, hno]; rfl)
  have hinter : Interleaving (keptFields finals c.members) (keptFields others c.members)
      (keptFields p c.members) := by
    rw [keptFields_union hfinals, keptFields_union hothers, c.keptFields_eq_occurrences]
    simp only [Policy.accepts_finalOnly, Policy.accepts_noFinal]
    exact (Interleaving.filter Occurrence.isFinal _).map Occurrence.field
  exact ⟨finals, others, hfinals, hothers, hinter, hinter.sublist_left, hinter.sublist_right, hinter.perm⟩

/-- A name that is declared final and not final, under a policy that keeps private fields only. -/
theorem keptFields_interleaving_twin :
    (Policy.only .privateOnly).on .finalOnly = false ∧ (Policy.only .privateOnly).on .noFinal = false ∧
      ∃ finals others, (Policy.only .privateOnly).union (.only .finalOnly) = .ok finals ∧
        (Policy.only .privateOnly).union (.only .noFinal) = .ok others ∧
        Interleaving
          (keptFields finals [.fields ["a", "_b"] none true false, .fields ["_b"] none false false])
          (keptFields others [.fields ["a", "_b"] none true false, .fields ["_b"] none false false])
          [⟨"_b", "dynamic"⟩, ⟨"_b", "dynamic"⟩] := by
  have hfinal : (Policy.only .privateOnly).on .finalOnly = false := rfl
  have hno : (Policy.only .privateOnly).on .noFinal = false := rfl
  obtain ⟨finals, others, hfinals, hothers, hinter, -⟩ := keptFields_interleaving hfinal hno
    ⟨"Twin", [.fields ["a", "_b"] none true false, .fields ["_b"] none false false]⟩
  exact ⟨hfinal, hno, finals, others, hfinals, hothers, hinter⟩

end DartSurvey
