import DartSurvey.Proofs.Report.Shapes
import Mathlib.Data.List.Nodup

/-!
# Records read back from what was read

Values of any kind are read as names, types and addresses, and a path is kept as it is. What is read is already
in the form in which it is written.

- `Value.Definite`: the values of a data file. No number in them is undefined, and no object has a key twice.
  Equality of data holds of such a value and itself (`same_self`); of an undefined number it does not.
- The path of a record is a part of the value that the record was read from (`definite_path`), so the record and
  its data are equal to themselves (`Record.same_self`, `Record.definite_toValue`).
- `ofValue_normalises`: reading what a record that was read is written as gives that record again.
-/

namespace DartSurvey

namespace Value

mutual

/-- A value in which no number is undefined and no object has a key twice. -/
def Definite : Value → Prop
  | .null | .bool _ | .int _ | .text _ => True
  | .real x => x.isNaN = false
  | .list items => DefiniteItems items
  | .object entries => (entries.map (·.1)).Nodup ∧ DefiniteEntries entries

/-- Items that are definite. -/
def DefiniteItems : List Value → Prop
  | [] => True
  | v :: vs => v.Definite ∧ DefiniteItems vs

/-- Entries with definite values. -/
def DefiniteEntries : List (String × Value) → Prop
  | [] => True
  | (_, v) :: rest => v.Definite ∧ DefiniteEntries rest

end

theorem definiteItems_iff {items : List Value} : DefiniteItems items ↔ ∀ v ∈ items, v.Definite := by
  induction items with
  | nil => simp [DefiniteItems]
  | cons v items ih => rw [DefiniteItems, ih, List.forall_mem_cons]

theorem definiteEntries_iff {entries : List (String × Value)} :
    DefiniteEntries entries ↔ ∀ e ∈ entries, e.2.Definite := by
  induction entries with
  | nil => simp [DefiniteEntries]
  | cons e entries ih => rw [DefiniteEntries, ih, List.forall_mem_cons]

theorem mem_of_lookup {key : String} {entries : List (String × Value)} {v : Value}
    (h : lookup key entries = some v) : (key, v) ∈ entries := by
  induction entries with
  | nil => cases h
  | cons e entries ih =>
    obtain ⟨k, w⟩ := e
    rw [lookup] at h
    split at h
    · rename_i hk
      cases h
      rw [beq_iff_eq.mp hk]
      exact List.mem_cons_self
    · exact List.mem_cons_of_mem _ (ih h)

/-- Where no key comes twice, every entry is found under its key. -/
theorem lookup_of_mem {entries : List (String × Value)} (hnodup : (entries.map (·.1)).Nodup) {e : String × Value}
    (he : e ∈ entries) : lookup e.1 entries = some e.2 := by
  induction entries with
  | nil => cases he
  | cons f entries ih =>
    obtain ⟨k, w⟩ := f
    obtain ⟨hnot, hrest⟩ := List.nodup_cons.mp hnodup
    rw [lookup]
    rcases List.mem_cons.mp he with rfl | hmem
    · simp
    · have hne : ¬k = e.1 := by
        intro hk
        exact hnot (List.mem_map.mpr ⟨e, hmem, hk.symm⟩)
      simp [hne, ih hrest hmem]

/-! ## Equality with itself -/

theorem sameScalar_self {v : Value} (h : v.Definite) (hlist : ∀ items, v ≠ .list items)
    (hobject : ∀ entries, v ≠ .object entries) : v.sameScalar v = true := by
  cases v with
  | null => rfl
  | bool b | int n | text s => simp [sameScalar, asInt?]
  | real x =>
    have hx : x.isNaN = false := h
    simp [sameScalar, Binary64.equal, hx]
  | list items => exact absurd rfl (hlist items)
  | object entries => exact absurd rfl (hobject entries)

mutual

/-- A definite value equals itself. -/
theorem same_self (v : Value) (h : v.Definite) : v.same v = true := by
  cases v with
  | list items => exact sameItems_self items h
  | object entries =>
    have hentries := sameEntries_self entries entries h.2 fun e he => lookup_of_mem h.1 he
    simp [same, hentries]
  | null | bool _ | int _ | real _ | text _ => exact sameScalar_self h (by simp) (by simp)

theorem sameItems_self (items : List Value) (h : DefiniteItems items) : sameItems items items = true := by
  cases items with
  | nil => rfl
  | cons v items => simp [sameItems, same_self v h.1, sameItems_self items h.2]

/-- Entries that are all found in an object are equal to those found there. -/
theorem sameEntries_self (entries all : List (String × Value)) (h : DefiniteEntries entries)
    (hfound : ∀ e ∈ entries, lookup e.1 all = some e.2) : sameEntries entries all = true := by
  cases entries with
  | nil => rfl
  | cons e entries =>
    obtain ⟨k, v⟩ := e
    have hk : lookup k all = some v := hfound (k, v) List.mem_cons_self
    have hrest := sameEntries_self entries all h.2 fun e he => hfound e (List.mem_cons_of_mem _ he)
    simp [sameEntries, hk, same_self v h.1, hrest]

end

end Value

namespace Report

/-! ## Records -/

theorem Record.same_self {r : Record} (h : r.path.Definite) : r.same r = true := by
  cases r with
  | classFields name fields path => simp [Record.same, Value.same_self path h]
  | fileImports imports path => simp [Record.same, Value.same_self path h]

/-- The data of a record with a definite path is definite. -/
theorem Record.definite_toValue {r : Record} (h : r.path.Definite) : r.toValue.Definite := by
  cases r with
  | classFields name fields path =>
    have hfields : Value.DefiniteItems (fields.map Field.toValue) := by
      rw [Value.definiteItems_iff]
      intro v hv
      obtain ⟨f, _, rfl⟩ := List.mem_map.mp hv
      exact ⟨by simp, trivial, trivial, trivial⟩
    exact ⟨by simp, trivial, h, hfields, trivial⟩
  | fileImports imports path =>
    have himports : Value.DefiniteItems (imports.map Import.toValue) := by
      rw [Value.definiteItems_iff]
      intro v hv
      obtain ⟨i, _, rfl⟩ := List.mem_map.mp hv
      have hname : (Value.ofText? i.asName).Definite := by
        cases i.asName <;> trivial
      exact ⟨by simp, trivial, hname, trivial, trivial⟩
    exact ⟨by simp, h, himports, trivial⟩

/-- A record that is read has the path of the object it is read from, and null where that has none. -/
theorem path_of_ofValue {v : Value} {r : Record} (h : Record.ofValue v = .ok r) :
    ∃ entries, v = .object entries ∧ r.path = (Value.lookup "filePath" entries).getD .null := by
  rcases ofValue_cases v with ⟨entries, rfl, hclass, hread⟩ | ⟨entries, rfl, _, _, hread⟩ | ⟨_, hread⟩
    | ⟨_, _, e, hread, _⟩
  · obtain ⟨name, hname⟩ := Option.isSome_iff_exists.mp (hasKey_object_iff.mp hclass)
    rw [hread, classOfValue_object hname] at h
    cases hitems : itemsAt Field.ofValue "fields" entries with
    | error e => simp [hitems, Except.map] at h
    | ok fields =>
      rw [hitems] at h
      cases h
      exact ⟨entries, rfl, rfl⟩
  · rw [hread, importsOfValue_object] at h
    cases hitems : itemsAt Import.ofValue "imports" entries with
    | error e => simp [hitems, Except.map] at h
    | ok imports =>
      rw [hitems] at h
      cases h
      exact ⟨entries, rfl, rfl⟩
  · rw [hread] at h
    cases h
  · rw [hread] at h
    cases h

theorem definite_path {v : Value} {r : Record} (h : Record.ofValue v = .ok r) (hv : v.Definite) :
    r.path.Definite := by
  obtain ⟨entries, rfl, hpath⟩ := path_of_ofValue h
  rw [hpath]
  cases hfound : Value.lookup "filePath" entries with
  | none => trivial
  | some path => exact Value.definiteEntries_iff.mp hv.2 _ (Value.mem_of_lookup hfound)

/-- **Reading normalises in one step.** What a record that was read is written as is read as the same record, which
is written in the same way again. Where the record was read from definite data, the two records and the two
written forms are also equal as data. -/
theorem ofValue_normalises {v : Value} {r : Record} (h : Record.ofValue v = .ok r) :
    ∃ again, Record.ofValue r.toValue = .ok again ∧ again = r ∧ again.toValue = r.toValue ∧
      (v.Definite → again.same r = true ∧ again.toValue.same r.toValue = true) := by
  refine ⟨r, Record.ofValue_toValue r, rfl, rfl, ?_⟩
  intro hv
  have hpath := definite_path h hv
  exact ⟨Record.same_self hpath, Value.same_self _ (Record.definite_toValue hpath)⟩

/-- Entries of other kinds than texts, a null, a key too many and a path that is no text. -/
theorem ofValue_normalises_odd :
    let v : Value := .object [("filePath", .list [.real ⟨0⟩, .object [("b", .null), ("a", .int 1)]]),
      ("className", .bool true), ("fields", .list [.object [("type", .null), ("name", .int 3), ("x", .list [])]])]
    let r : Record := .classFields "True" [⟨"3", "None"⟩] (.list [.real ⟨0⟩, .object [("b", .null), ("a", .int 1)]])
    Record.ofValue v = .ok r ∧ v.Definite ∧
      ∃ again, Record.ofValue r.toValue = .ok again ∧ again = r ∧ again.toValue = r.toValue ∧
        again.same r = true ∧ again.toValue.same r.toValue = true := by
  intro v r
  have hread : Record.ofValue v = .ok r := rfl
  have hv : v.Definite := by
    simp only [v, Value.Definite, Value.DefiniteItems, Value.DefiniteEntries]
    decide
  obtain ⟨again, hagain, hsame, hwritten, hequal⟩ := ofValue_normalises hread
  exact ⟨hread, hv, again, hagain, hsame, hwritten, hequal hv⟩

end Report

end DartSurvey
