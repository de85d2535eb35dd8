import DartSurvey.Proofs.Outcomes
import DartSurvey.Proofs.Report.JsonLines
import Mathlib.Data.List.Infix

/-!
# Which values describe a record

- `DescribesRecord`: the shapes of values from which a record is read. `Mentions`, `Searchable` and `LacksKey`
  describe what goes wrong with others.
- The items under a key are those of a list, or none; any other value that counts as true has parts that are
  texts, and no field or import is read from a text (`itemsAt_ok_iff`, `itemsAt_error_iff`).
- What a value mentions decides what it is read as (`ofValue_classFields`, `ofValue_fileImports`,
  `ofValue_neither`, `ofValue_unsearchable`).
- `ofValue_outcomes` says for every value whether it is read as a record, and which error it gives if not.
-/

namespace DartSurvey.Report

/-! ## Shapes -/

/-- That a value is an object with a key. -/
def HasKey (key : String) (v : Value) : Prop := ∃ entries x, v = .object entries ∧ (key, x) ∈ entries

/-- That a value is an object. -/
def IsObject (v : Value) : Prop := ∃ entries, v = .object entries

/-- That a value is an object with the keys of a field. -/
def HasFieldKeys (v : Value) : Prop := HasKey "name" v ∧ HasKey "type" v

/-- That under a key there is nothing, a value that counts as false, or a list of items for which `ok` holds. -/
def ListsAt (key : String) (ok : Value → Prop) (entries : List (String × Value)) : Prop :=
  ∀ v, Value.lookup key entries = some v → v.truthy = true → ∃ items, v = .list items ∧ ∀ i ∈ items, ok i

/-- The values that describe a record. -/
inductive DescribesRecord : Value → Prop
  | classFields {entries : List (String × Value)} (hclass : HasKey "className" (.object entries))
      (hfields : ListsAt "fields" HasFieldKeys entries) : DescribesRecord (.object entries)
  | fileImports {entries : List (String × Value)} (hclass : ¬HasKey "className" (.object entries))
      (hkey : HasKey "imports" (.object entries)) (himports : ListsAt "imports" IsObject entries) :
      DescribesRecord (.object entries)

/-- The values in which something can be searched for. -/
inductive Searchable : Value → Prop
  | object (entries : List (String × Value)) : Searchable (.object entries)
  | list (items : List Value) : Searchable (.list items)
  | text (s : String) : Searchable (.text s)

/-- That a word is a key of an object, an item of a list or a part of a text. -/
inductive Mentions (word : String) : Value → Prop
  | key {entries : List (String × Value)} (h : HasKey word (.object entries)) : Mentions word (.object entries)
  | item {items : List Value} (h : .text word ∈ items) : Mentions word (.list items)
  | part {s : String} (h : word.toList <:+: s.toList) : Mentions word (.text s)

/-- That a value says that it is a class record, and that of the fields it lists the first one without the keys
of a field is an object that lacks `key`. Of the two keys the name is missed first. -/
inductive LacksKey (key : String) : Value → Prop
  | mk {entries fieldEntries : List (String × Value)} {before after : List Value}
      (hclass : HasKey "className" (.object entries))
      (hfields : Value.lookup "fields" entries = some (.list (before ++ .object fieldEntries :: after)))
      (hbefore : ∀ i ∈ before, HasFieldKeys i)
      (hkey : key = "name" ∧ ¬HasKey "name" (.object fieldEntries) ∨
        key = "type" ∧ HasKey "name" (.object fieldEntries) ∧ ¬HasKey "type" (.object fieldEntries)) :
      LacksKey key (.object entries)

theorem lookup_isSome_iff {key : String} {entries : List (String × Value)} :
    (Value.lookup key entries).isSome = true ↔ ∃ x, (key, x) ∈ entries := by
  induction entries with
  | nil => simp [Value.lookup]
  | cons e entries ih =>
    obtain ⟨k, v⟩ := e
    rw [Value.lookup]
    by_cases hk : k = key
    · subst hk
      simp
    · have hne : ¬key = k := fun h => hk h.symm
      simp [hk, hne, ih]

theorem hasKey_object_iff {key : String} {entries : List (String × Value)} :
    HasKey key (.object entries) ↔ (Value.lookup key entries).isSome = true := by
  rw [lookup_isSome_iff]
  constructor
  · rintro ⟨entries', x, heq, hx⟩
    cases heq
    exact ⟨x, hx⟩
  · rintro ⟨x, hx⟩
    exact ⟨entries, x, rfl, hx⟩

/-! ## Lists of items -/

/-- That an error is about a value of the wrong kind. -/
def DecodeError.IsMisfit (e : DecodeError) : Prop := e = .unsuited ∨ e = .notAnObject

/-- What is read from the items under a key. -/
def itemsAt {α : Type} (read : Value → Except DecodeError α) (key : String) (entries : List (String × Value)) :
    Except DecodeError (List α) := do
  (← elementsAt key entries).mapM read

section ItemsAt

variable {α : Type} {read : Value → Except DecodeError α} {key : String} {entries : List (String × Value)}

/-- Under a key there is nothing that counts as true, or a list, or another value that counts as true. -/
theorem lookup_cases (key : String) (entries : List (String × Value)) :
    (∀ v, Value.lookup key entries = some v → v.truthy = false) ∨
      (∃ items, Value.lookup key entries = some (.list items)) ∨
      ∃ v, Value.lookup key entries = some v ∧ v.truthy = true ∧ ∀ items, v ≠ .list items := by
  cases hfound : Value.lookup key entries with
  | none => exact .inl fun v h => by cases h
  | some v =>
    by_cases hlist : ∃ items, v = .list items
    · obtain ⟨items, rfl⟩ := hlist
      exact .inr (.inl ⟨items, rfl⟩)
    · cases htrue : v.truthy with
      | true => exact .inr (.inr ⟨v, rfl, htrue, fun items h => hlist ⟨items, h⟩⟩)
      | false =>
        refine .inl fun w hw => ?_
        cases hw
        exact htrue

theorem itemsAt_false (h : ∀ v, Value.lookup key entries = some v → v.truthy = false) :
    itemsAt read key entries = .ok [] := by
  have hnone : elementsAt key entries = .ok [] := by
    unfold elementsAt
    split
    · rfl
    · rename_i v hv
      simp [h v hv]
  rw [itemsAt, hnone]
  rfl

theorem itemsAt_list {items : List Value} (h : Value.lookup key entries = some (.list items)) :
    itemsAt read key entries = items.mapM read := by
  rw [itemsAt, elementsAt_list h]
  rfl

variable (hread : ∀ s, ∃ e, read (.text s) = .error e ∧ e.IsMisfit)

include hread

/-- A value that is no list but counts as true has no parts, or texts for parts. -/
theorem itemsAt_other {v : Value} (hv : Value.lookup key entries = some v) (htrue : v.truthy = true)
    (hlist : ∀ items, v ≠ .list items) : ∃ e, itemsAt read key entries = .error e ∧ e.IsMisfit := by
  have hfirst : ∀ (s : String) (vs : List Value), elementsAt key entries = .ok (.text s :: vs) →
      ∃ e, itemsAt read key entries = .error e ∧ e.IsMisfit := by
    intro s vs helements
    obtain ⟨e, he, hmisfit⟩ := hread s
    refine ⟨e, ?_, hmisfit⟩
    rw [itemsAt, helements]
    show (Value.text s :: vs).mapM read = .error e
    rw [List.mapM_cons, he]
    rfl
  have hnone : elements v = none → ∃ e, itemsAt read key entries = .error e ∧ e.IsMisfit := by
    intro helements
    refine ⟨.unsuited, ?_, .inl rfl⟩
    rw [itemsAt, elementsAt, hv]
    simp only [htrue, ↓reduceIte, helements]
    rfl
  cases v with
  | list items => exact absurd rfl (hlist items)
  | null | bool _ | int _ | real _ => exact hnone rfl
  | text s =>
    cases hs : s.toList with
    | nil =>
      have hempty : s = "" := String.toList_eq_nil_iff.mp hs
      simp [Value.truthy, hempty] at htrue
    | cons c cs =>
      apply hfirst (String.singleton c) (cs.map fun c => .text (String.singleton c))
      rw [elementsAt, hv]
      simp only [htrue, ↓reduceIte, elements, hs, List.map_cons]
  | object es =>
    cases es with
    | nil => cases htrue
    | cons e es =>
      apply hfirst e.1 (es.map fun e => .text e.1)
      rw [elementsAt, hv]
      simp only [htrue, ↓reduceIte, elements, List.map_cons]

/-- Items are read exactly if they are listed, and each of them is read. -/
theorem itemsAt_ok_iff :
    (∃ as, itemsAt read key entries = .ok as) ↔ ListsAt key (fun i => ∃ a, read i = .ok a) entries := by
  rcases lookup_cases key entries with hfalse | ⟨items, hitems⟩ | ⟨v, hv, htrue, hlist⟩
  · refine iff_of_true ⟨[], itemsAt_false hfalse⟩ ?_
    intro v hv htrue
    rw [hfalse v hv] at htrue
    cases htrue
  · rw [itemsAt_list hitems, mapM_ok_iff]
    constructor
    · intro hall v hv _
      rw [hitems] at hv
      cases hv
      exact ⟨items, rfl, hall⟩
    · intro hlists i hi
      have htrue : (Value.list items).truthy = true := by
        simp [Value.truthy, List.ne_nil_of_mem hi]
      obtain ⟨items', heq, hall⟩ := hlists _ hitems htrue
      cases heq
      exact hall i hi
  · obtain ⟨e, he, _⟩ := itemsAt_other hread hv htrue hlist
    refine iff_of_false ?_ ?_
    · rintro ⟨as, has⟩
      rw [he] at has
      cases has
    · intro hlists
      obtain ⟨items, heq, _⟩ := hlists v hv htrue
      exact hlist items heq

/-- An error about what a value holds is that of the first item of a list that is not read. -/
theorem itemsAt_error_iff {e : DecodeError} (he : ¬e.IsMisfit) :
    itemsAt read key entries = .error e ↔
      ∃ before i after, Value.lookup key entries = some (.list (before ++ i :: after)) ∧
        (∀ b ∈ before, ∃ a, read b = .ok a) ∧ read i = .error e := by
  rcases lookup_cases key entries with hfalse | ⟨items, hitems⟩ | ⟨v, hv, htrue, hlist⟩
  · rw [itemsAt_false hfalse]
    refine iff_of_false (fun h => by cases h) ?_
    rintro ⟨before, i, after, hitems, _⟩
    have hempty := hfalse _ hitems
    simp [Value.truthy] at hempty
  · rw [itemsAt_list hitems, mapM_error_iff, hitems]
    simp only [Option.some.injEq, Value.list.injEq]
  · obtain ⟨e', he', hmisfit⟩ := itemsAt_other hread hv htrue hlist
    rw [he', hv]
    refine iff_of_false ?_ ?_
    · intro h
      cases h
      exact he hmisfit
    · rintro ⟨before, i, after, hitems, _⟩
      cases hitems
      exact hlist _ rfl

end ItemsAt

/-! ## Fields and imports -/

/-- A field is read exactly from an object with its keys. -/
theorem Field.ofValue_ok_iff (v : Value) : (∃ f, Field.ofValue v = .ok f) ↔ HasFieldKeys v := by
  cases v with
  | object entries =>
    rw [HasFieldKeys, hasKey_object_iff, hasKey_object_iff, Field.ofValue]
    cases Value.lookup "name" entries with
    | none => simp
    | some name => cases Value.lookup "type" entries <;> simp
  | null | bool _ | int _ | real _ | text _ | list _ => simp [Field.ofValue, HasFieldKeys, HasKey]

/-- A field lacks a key exactly if it is an object without that key; the name is looked for first. -/
theorem Field.ofValue_missingKey_iff (v : Value) (key : String) :
    Field.ofValue v = .error (.missingKey key) ↔ ∃ entries, v = .object entries ∧
      (key = "name" ∧ ¬HasKey "name" v ∨ key = "type" ∧ HasKey "name" v ∧ ¬HasKey "type" v) := by
  cases v with
  | object entries =>
    simp only [Value.object.injEq, exists_eq_left', hasKey_object_iff, Field.ofValue]
    cases Value.lookup "name" entries with
    | none => simpa using eq_comm
    | some name =>
      cases Value.lookup "type" entries with
      | none => simpa using eq_comm
      | some type => simp
  | null | bool _ | int _ | real _ | text _ | list _ => simp [Field.ofValue]

theorem Field.ofValue_text (s : String) : ∃ e, Field.ofValue (.text s) = .error e ∧ e.IsMisfit :=
  ⟨.unsuited, rfl, .inl rfl⟩

theorem Field.ofValue_ne_neitherKind (v : Value) : Field.ofValue v ≠ .error .neitherKind := by
  unfold Field.ofValue
  repeat' split
  all_goals simp

/-- An import is read exactly from an object. -/
theorem Import.ofValue_ok_iff (v : Value) : (∃ i, Import.ofValue v = .ok i) ↔ IsObject v := by
  cases v <;> simp [Import.ofValue, IsObject]

theorem Import.ofValue_text (s : String) : ∃ e, Import.ofValue (.text s) = .error e ∧ e.IsMisfit :=
  ⟨.notAnObject, rfl, .inr rfl⟩

theorem Import.isMisfit_of_ofValue {v : Value} {e : DecodeError} (h : Import.ofValue v = .error e) : e.IsMisfit := by
  cases v with
  | object entries => cases h
  | null | bool _ | int _ | real _ | text _ | list _ =>
    cases h
    exact .inr rfl

/-! ## What a value mentions -/

theorem isWithin_iff (part cs : List Char) : isWithin part cs = true ↔ part <:+: cs := by
  induction cs with
  | nil => simp [isWithin, List.isEmpty_iff]
  | cons c cs ih => rw [isWithin, Bool.or_eq_true_iff, ih, List.isPrefixOf_iff_prefix, List.infix_cons_iff]

theorem same_text_iff (v : Value) (s : String) : v.same (.text s) = true ↔ v = .text s := by
  cases v with
  | text t => simp [Value.same, Value.sameScalar]
  | null | bool _ | int _ | real _ | list _ | object _ => simp [Value.same, Value.sameScalar, Value.asInt?]

/-- A value that can be searched is searched for what it mentions. -/
theorem mentions_of_searchable {v : Value} (h : Searchable v) (word : String) :
    ∃ b, mentions word v = .ok b ∧ (b = true ↔ Mentions word v) := by
  cases h with
  | object entries =>
    refine ⟨_, rfl, ?_⟩
    rw [← hasKey_object_iff]
    exact ⟨.key, fun h => by cases h; assumption⟩
  | list items =>
    refine ⟨_, rfl, ?_⟩
    simp only [List.any_eq_true, same_text_iff, exists_eq_right]
    exact ⟨.item, fun h => by cases h; assumption⟩
  | text s =>
    refine ⟨_, rfl, ?_⟩
    rw [isWithin_iff]
    exact ⟨.part, fun h => by cases h; assumption⟩

theorem mentions_of_not_searchable {v : Value} (h : ¬Searchable v) (word : String) :
    mentions word v = .error .unsuited := by
  cases v with
  | null | bool _ | int _ | real _ => rfl
  | text s => exact absurd (.text s) h
  | list items => exact absurd (.list items) h
  | object entries => exact absurd (.object entries) h

/-! ## Class records and imports records -/

section Outcomes

variable {entries : List (String × Value)}

/-- A class record is read from its fields, which alone can fail. -/
theorem classOfValue_object {name : Value} (h : Value.lookup "className" entries = some name) :
    Record.classOfValue (.object entries) = (itemsAt Field.ofValue "fields" entries).map fun fields =>
      .classFields name.shown fields ((Value.lookup "filePath" entries).getD .null) := by
  simp only [Record.classOfValue, h, itemsAt, bind, Except.bind]
  cases elementsAt "fields" entries with
  | error e => rfl
  | ok items =>
    show (items.mapM Field.ofValue).bind _ = (items.mapM Field.ofValue).map _
    cases items.mapM Field.ofValue <;> rfl

/-- An imports record is read from its imports, which alone can fail. -/
theorem importsOfValue_object (entries : List (String × Value)) :
    Record.importsOfValue (.object entries) = (itemsAt Import.ofValue "imports" entries).map fun imports =>
      .fileImports imports ((Value.lookup "filePath" entries).getD .null) := by
  simp only [Record.importsOfValue, itemsAt, bind, Except.bind]
  cases elementsAt "imports" entries with
  | error e => rfl
  | ok items =>
    show (items.mapM Import.ofValue).bind _ = (items.mapM Import.ofValue).map _
    cases items.mapM Import.ofValue <;> rfl

theorem classOfValue_ok_iff (h : HasKey "className" (.object entries)) :
    (∃ r, Record.classOfValue (.object entries) = .ok r) ↔ ListsAt "fields" HasFieldKeys entries := by
  obtain ⟨name, hname⟩ := Option.isSome_iff_exists.mp (hasKey_object_iff.mp h)
  rw [classOfValue_object hname, (map_outcomes _ _).1, itemsAt_ok_iff Field.ofValue_text]
  simp only [Field.ofValue_ok_iff]

theorem classOfValue_missingKey_iff (h : HasKey "className" (.object entries)) (key : String) :
    Record.classOfValue (.object entries) = .error (.missingKey key) ↔ LacksKey key (.object entries) := by
  obtain ⟨name, hname⟩ := Option.isSome_iff_exists.mp (hasKey_object_iff.mp h)
  have hkind : ¬(DecodeError.missingKey key).IsMisfit := by simp [DecodeError.IsMisfit]
  rw [classOfValue_object hname, (map_outcomes _ _).2, itemsAt_error_iff Field.ofValue_text hkind]
  simp only [Field.ofValue_ok_iff, Field.ofValue_missingKey_iff]
  constructor
  · rintro ⟨before, i, after, hfields, hbefore, fieldEntries, rfl, hkey⟩
    exact .mk h hfields hbefore hkey
  · rintro ⟨_, hfields, hbefore, hkey⟩
    exact ⟨_, _, _, hfields, hbefore, _, rfl, hkey⟩

theorem classOfValue_ne_neitherKind (h : HasKey "className" (.object entries)) :
    Record.classOfValue (.object entries) ≠ .error .neitherKind := by
  obtain ⟨name, hname⟩ := Option.isSome_iff_exists.mp (hasKey_object_iff.mp h)
  have hkind : ¬DecodeError.neitherKind.IsMisfit := by simp [DecodeError.IsMisfit]
  rw [classOfValue_object hname, Ne, (map_outcomes _ _).2, itemsAt_error_iff Field.ofValue_text hkind]
  rintro ⟨_, i, _, _, _, hi⟩
  exact Field.ofValue_ne_neitherKind i hi

theorem importsOfValue_ok_iff :
    (∃ r, Record.importsOfValue (.object entries) = .ok r) ↔ ListsAt "imports" IsObject entries := by
  rw [importsOfValue_object, (map_outcomes _ _).1, itemsAt_ok_iff Import.ofValue_text]
  simp only [Import.ofValue_ok_iff]

theorem isMisfit_of_importsOfValue {e : DecodeError} (h : Record.importsOfValue (.object entries) = .error e) :
    e.IsMisfit := by
  by_contra hkind
  rw [importsOfValue_object, (map_outcomes _ _).2, itemsAt_error_iff Import.ofValue_text hkind] at h
  obtain ⟨_, i, _, _, _, hi⟩ := h
  exact hkind (Import.isMisfit_of_ofValue hi)

end Outcomes

/-! ## Values of any kind -/

section Values

variable {v : Value}

theorem ofValue_unsearchable (h : ¬Searchable v) : Record.ofValue v = .error .unsuited := by
  rw [Record.ofValue, mentions_of_not_searchable h]
  rfl

theorem ofValue_classFields (h : Searchable v) (hclass : Mentions "className" v) :
    Record.ofValue v = Record.classOfValue v := by
  obtain ⟨b, hb, hiff⟩ := mentions_of_searchable h "className"
  rw [Record.ofValue, hb, hiff.mpr hclass]
  rfl

theorem ofValue_fileImports (h : Searchable v) (hclass : ¬Mentions "className" v) (himports : Mentions "imports" v) :
    Record.ofValue v = Record.importsOfValue v := by
  obtain ⟨b, hb, hiff⟩ := mentions_of_searchable h "className"
  obtain ⟨b', hb', hiff'⟩ := mentions_of_searchable h "imports"
  rw [Record.ofValue, hb, hb', Bool.eq_false_iff.mpr (mt hiff.mp hclass), hiff'.mpr himports]
  rfl

theorem ofValue_neither (h : Searchable v) (hclass : ¬Mentions "className" v) (himports : ¬Mentions "imports" v) :
    Record.ofValue v = .error .neitherKind := by
  obtain ⟨b, hb, hiff⟩ := mentions_of_searchable h "className"
  obtain ⟨b', hb', hiff'⟩ := mentions_of_searchable h "imports"
  rw [Record.ofValue, hb, hb', Bool.eq_false_iff.mpr (mt hiff.mp hclass), Bool.eq_false_iff.mpr (mt hiff'.mp himports)]
  rfl

theorem mentions_object_iff {word : String} {entries : List (String × Value)} :
    Mentions word (.object entries) ↔ HasKey word (.object entries) :=
  ⟨fun h => by cases h; assumption, .key⟩

theorem DescribesRecord.isObject (h : DescribesRecord v) : IsObject v := by
  cases h <;> exact ⟨_, rfl⟩

/-- A value that is no object gives an error about its kind, unless it can be searched and mentions nothing. -/
theorem ofValue_not_object (h : ¬IsObject v)
    (hmentions : Searchable v → Mentions "className" v ∨ Mentions "imports" v) :
    ∃ e, Record.ofValue v = .error e ∧ e.IsMisfit := by
  have hclass : Record.classOfValue v = .error .unsuited := by
    cases v with
    | object entries => exact absurd ⟨entries, rfl⟩ h
    | null | bool _ | int _ | real _ | text _ | list _ => rfl
  have himports : Record.importsOfValue v = .error .notAnObject := by
    cases v with
    | object entries => exact absurd ⟨entries, rfl⟩ h
    | null | bool _ | int _ | real _ | text _ | list _ => rfl
  by_cases hs : Searchable v
  · by_cases hc : Mentions "className" v
    · exact ⟨.unsuited, by rw [ofValue_classFields hs hc, hclass], .inl rfl⟩
    · have hi := (hmentions hs).resolve_left hc
      exact ⟨.notAnObject, by rw [ofValue_fileImports hs hc hi, himports], .inr rfl⟩
  · exact ⟨.unsuited, ofValue_unsearchable hs, .inl rfl⟩

/-- The ways in which a value is read: as an object that is a class record or an imports record by its keys; as a
value that mentions neither; or as a value that is of the wrong kind. -/
theorem ofValue_cases (v : Value) :
    (∃ entries, v = .object entries ∧ HasKey "className" v ∧ Record.ofValue v = Record.classOfValue v) ∨
      (∃ entries, v = .object entries ∧ ¬HasKey "className" v ∧ HasKey "imports" v ∧
        Record.ofValue v = Record.importsOfValue v) ∨
      ((Searchable v ∧ ¬Mentions "className" v ∧ ¬Mentions "imports" v) ∧
        Record.ofValue v = .error .neitherKind) ∨
      (¬IsObject v ∧ ¬(Searchable v ∧ ¬Mentions "className" v ∧ ¬Mentions "imports" v) ∧
        ∃ e, Record.ofValue v = .error e ∧ e.IsMisfit) := by
  by_cases hneither : Searchable v ∧ ¬Mentions "className" v ∧ ¬Mentions "imports" v
  · exact .inr (.inr (.inl ⟨hneither, ofValue_neither hneither.1 hneither.2.1 hneither.2.2⟩))
  · by_cases hobject : IsObject v
    · obtain ⟨entries, rfl⟩ := hobject
      by_cases hclass : HasKey "className" (.object entries)
      · exact .inl ⟨entries, rfl, hclass, ofValue_classFields (.object entries) (.key hclass)⟩
      · have hno : ¬Mentions "className" (.object entries) := mt mentions_object_iff.mp hclass
        have himports : Mentions "imports" (.object entries) := by
          by_contra hnot
          exact hneither ⟨.object entries, hno, hnot⟩
        exact .inr (.inl ⟨entries, rfl, hclass, mentions_object_iff.mp himports,
          ofValue_fileImports (.object entries) hno himports⟩)
    · refine .inr (.inr (.inr ⟨hobject, hneither, ofValue_not_object hobject ?_⟩))
      intro hs
      by_contra hnot
      push Not at hnot
      exact hneither ⟨hs, hnot⟩

theorem ofValue_ok_iff (v : Value) : (∃ r, Record.ofValue v = .ok r) ↔ DescribesRecord v := by
  rcases ofValue_cases v with ⟨entries, rfl, hclass, hread⟩ | ⟨entries, rfl, hclass, hkey, hread⟩
    | ⟨⟨_, hclass, himports⟩, hread⟩ | ⟨hobject, _, e, hread, _⟩
  · rw [hread, classOfValue_ok_iff hclass]
    constructor
    · exact .classFields hclass
    · rintro (⟨_, hfields⟩ | ⟨hno, _, _⟩)
      · exact hfields
      · exact absurd hclass hno
  · rw [hread, importsOfValue_ok_iff]
    constructor
    · exact .fileImports hclass hkey
    · rintro (⟨hyes, _⟩ | ⟨_, _, himports⟩)
      · exact absurd hyes hclass
      · exact himports
  · rw [hread]
    refine iff_of_false (by simp) ?_
    rintro (⟨hyes, _⟩ | ⟨_, hkey, _⟩)
    · exact hclass (.key hyes)
    · exact himports (.key hkey)
  · rw [hread]
    exact iff_of_false (by simp) fun h => hobject h.isObject

theorem ofValue_neitherKind_iff (v : Value) : Record.ofValue v = .error .neitherKind ↔
    Searchable v ∧ ¬Mentions "className" v ∧ ¬Mentions "imports" v := by
  rcases ofValue_cases v with ⟨entries, rfl, hclass, hread⟩ | ⟨entries, rfl, hclass, hkey, hread⟩
    | ⟨hneither, hread⟩ | ⟨_, hneither, e, hread, hmisfit⟩
  · rw [hread]
    exact iff_of_false (classOfValue_ne_neitherKind hclass) fun h => h.2.1 (.key hclass)
  · rw [hread]
    refine iff_of_false ?_ fun h => h.2.2 (.key hkey)
    intro h
    have hmisfit := isMisfit_of_importsOfValue h
    simp [DecodeError.IsMisfit] at hmisfit
  · exact iff_of_true hread hneither
  · rw [hread]
    refine iff_of_false ?_ hneither
    intro h
    cases h
    simp [DecodeError.IsMisfit] at hmisfit

theorem ofValue_missingKey_iff (v : Value) (key : String) :
    Record.ofValue v = .error (.missingKey key) ↔ LacksKey key v := by
  rcases ofValue_cases v with ⟨entries, rfl, hclass, hread⟩ | ⟨entries, rfl, hclass, _, hread⟩
    | ⟨⟨_, hclass, _⟩, hread⟩ | ⟨hobject, _, e, hread, hmisfit⟩
  · rw [hread, classOfValue_missingKey_iff hclass]
  · rw [hread]
    refine iff_of_false ?_ ?_
    · intro h
      have hmisfit := isMisfit_of_importsOfValue h
      simp [DecodeError.IsMisfit] at hmisfit
    · rintro ⟨hyes, _⟩
      exact hclass hyes
  · rw [hread]
    refine iff_of_false (by simp) ?_
    rintro ⟨hyes, _⟩
    exact hclass (.key hyes)
  · rw [hread]
    refine iff_of_false ?_ ?_
    · intro h
      cases h
      simp [DecodeError.IsMisfit] at hmisfit
    · rintro ⟨_, _⟩
      exact hobject ⟨_, rfl⟩

/-- **Which values are records.** A record is read exactly from a value that describes one. Any other gives an
error: that it is of neither kind exactly if it can be searched and mentions neither word, that a key is missing
exactly if that is the first flaw of the fields of a class record, and that a value is of the wrong kind in all
other cases. -/
theorem ofValue_outcomes (v : Value) :
    ((∃ r, Record.ofValue v = .ok r) ↔ DescribesRecord v) ∧
      (Record.ofValue v = .error .neitherKind ↔
        Searchable v ∧ ¬Mentions "className" v ∧ ¬Mentions "imports" v) ∧
      (∀ key, Record.ofValue v = .error (.missingKey key) ↔ LacksKey key v) ∧
      (Record.ofValue v = .error .unsuited ∨ Record.ofValue v = .error .notAnObject ↔
        ¬DescribesRecord v ∧ ¬(Searchable v ∧ ¬Mentions "className" v ∧ ¬Mentions "imports" v) ∧
          ∀ key, ¬LacksKey key v) := by
  refine ⟨ofValue_ok_iff v, ofValue_neitherKind_iff v, ofValue_missingKey_iff v, ?_⟩
  simp only [← ofValue_ok_iff, ← ofValue_neitherKind_iff, ← ofValue_missingKey_iff]
  cases Record.ofValue v with
  | ok r => simp
  | error e => cases e <;> simp

/-- A text with the word in it is taken for an imports record, and is of the wrong kind for one. -/
example : Record.ofValue (.text "the imports") = .error .notAnObject := rfl

end Values

end DartSurvey.Report
