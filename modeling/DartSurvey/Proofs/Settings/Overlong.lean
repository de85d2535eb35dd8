import DartSurvey.Proofs.Outcomes
import DartSurvey.Settings

/-!
# Numbers too long for settings

Data of settings can hold numbers with more digits than are ever written. Such a number is no problem where
it is passed over, but one that has to be written ends the reading of the settings.

- A datum cannot be written exactly if it is such a number (`textOf_error_iff`).
- The options, the format and the paths are read in this order, so reading them comes upon such a number only
  if all before it is in order (`readOptions_unwritable_iff`, `readFormat_unwritable_iff`,
  `readPaths_unwritable_iff`).
- `ofDatum_unwritable_iff`: reading settings ends so exactly if the data are `Overlong`.
-/

namespace DartSurvey

open Yaml (Datum)

/-- A number with more digits than are written. -/
def Yaml.Datum.IsLong (d : Datum) : Prop := ∃ n, d = .int n ∧ Nat.pow 10 Numeral.maxDigits ≤ n.natAbs

namespace Settings

/-- The only datum that cannot be written is a long number. -/
theorem textOf_error_iff (d : Datum) (p : Problem) : textOf d = .error p ↔ d.IsLong ∧ p = .unwritable := by
  have hother : d.written?.isSome = true → ¬d.IsLong → (textOf d = .error p ↔ d.IsLong ∧ p = .unwritable) := by
    intro hsome hshort
    obtain ⟨w, hw⟩ := Option.isSome_iff_exists.mp hsome
    simp [textOf, hw, hshort]
  cases d with
  | int n =>
    by_cases hshort : n.natAbs < Nat.pow 10 Numeral.maxDigits
    · refine hother ?_ ?_
      · simp only [Datum.written?, Numeral.written?, if_pos hshort, Option.map_some, Option.isSome_some]
      · rintro ⟨m, hm, hlong⟩
        cases hm
        exact absurd hshort (Nat.not_lt.mpr hlong)
    · have hlong : (Datum.int n).IsLong := ⟨n, rfl, Nat.not_lt.mp hshort⟩
      simp only [textOf, Datum.written?, Numeral.written?, if_neg hshort, Option.map_none, hlong, true_and,
        Except.error.injEq]
      exact eq_comm
  | bool b => exact hother (by cases b <;> rfl) (by rintro ⟨n, hn, _⟩; cases hn)
  | null | real x | text w | bytes bs | time t | list items | map entries | set members | deeper =>
    exact hother rfl (by rintro ⟨n, hn, _⟩; cases hn)

theorem not_isLong_of_textOf {d : Datum} {w : Text.Wide} (h : textOf d = .ok w) : ¬d.IsLong := by
  intro hlong
  rw [(textOf_error_iff d .unwritable).mpr ⟨hlong, rfl⟩] at h
  cases h

/-! ## Options -/

/-- An option as it should be: a key that names a switch, and a truth value. -/
def IsOption (o : Datum × Datum) : Prop :=
  ∃ key s b, textOf o.1 = .ok key ∧ writtenOption? key = some s ∧ truth? o.2 = some b

theorem IsOption.not_isLong {o : Datum × Datum} (h : IsOption o) : ¬o.1.IsLong := by
  obtain ⟨key, _, _, hkey, _⟩ := h
  exact not_isLong_of_textOf hkey

/-- An option as it should be is read, and the reading goes on. -/
theorem readOptions_cons {o : Datum × Datum} (h : IsOption o) (options : Switch → Option Bool)
    (rest : List (Datum × Datum)) : ∃ read, readOptions options (o :: rest) = readOptions read rest := by
  obtain ⟨key, s, b, hkey, hs, hb⟩ := h
  refine ⟨setOption options s b, ?_⟩
  rw [readOptions, hkey]
  simp only [bind, Except.bind, hs, hb]

/-- An option that is not as it should be ends the reading. -/
theorem readOptions_stop {o : Datum × Datum} (h : ¬IsOption o) (options : Switch → Option Bool)
    (rest : List (Datum × Datum)) :
    ∃ p, readOptions options (o :: rest) = .error p ∧ (p = .unwritable ↔ o.1.IsLong) := by
  rw [readOptions]
  cases hkey : textOf o.1 with
  | error p =>
    obtain ⟨hlong, rfl⟩ := (textOf_error_iff o.1 p).mp hkey
    exact ⟨.unwritable, rfl, iff_of_true rfl hlong⟩
  | ok key =>
    have hshort : ¬o.1.IsLong := not_isLong_of_textOf hkey
    simp only [bind, Except.bind]
    cases hs : writtenOption? key with
    | none => exact ⟨.unknownOption key.joined, rfl, by simp [hshort]⟩
    | some s =>
      cases hb : truth? o.2 with
      | none => exact ⟨.notATruthValue key.joined, rfl, by simp [hshort]⟩
      | some b => exact absurd ⟨key, s, b, hkey, hs, hb⟩ h

/-- Options are read exactly if each is as it should be. -/
theorem readOptions_ok_iff (options : Switch → Option Bool) (entries : List (Datum × Datum)) :
    (∃ read, readOptions options entries = .ok read) ↔ ∀ o ∈ entries, IsOption o := by
  induction entries generalizing options with
  | nil => simp [readOptions]
  | cons o rest ih =>
    rw [List.forall_mem_cons]
    by_cases ho : IsOption o
    · obtain ⟨read, hread⟩ := readOptions_cons ho options rest
      rw [hread, ih read]
      exact (and_iff_right ho).symm
    · obtain ⟨p, hp, _⟩ := readOptions_stop ho options rest
      simp [hp, ho]

/-- Reading options comes upon a long number exactly if that is the first thing not as it should be. -/
theorem readOptions_unwritable_iff (options : Switch → Option Bool) (entries : List (Datum × Datum)) :
    readOptions options entries = .error .unwritable ↔
      ∃ before o after, entries = before ++ o :: after ∧ (∀ o ∈ before, IsOption o) ∧ o.1.IsLong := by
  induction entries generalizing options with
  | nil => simp [readOptions]
  | cons o rest ih =>
    by_cases ho : IsOption o
    · obtain ⟨read, hread⟩ := readOptions_cons ho options rest
      rw [hread, ih read]
      constructor
      · rintro ⟨before, o', after, rfl, hbefore, hlong⟩
        exact ⟨o :: before, o', after, rfl, List.forall_mem_cons.mpr ⟨ho, hbefore⟩, hlong⟩
      · rintro ⟨before, o', after, hsplit, hbefore, hlong⟩
        cases before with
        | nil =>
          cases hsplit
          exact absurd hlong ho.not_isLong
        | cons first before =>
          cases hsplit
          exact ⟨before, o', after, rfl, (List.forall_mem_cons.mp hbefore).2, hlong⟩
    · obtain ⟨p, hp, hlong⟩ := readOptions_stop ho options rest
      rw [hp, Except.error.injEq, hlong]
      constructor
      · exact fun h => ⟨[], o, rest, rfl, by simp, h⟩
      · rintro ⟨before, o', after, hsplit, hbefore, h⟩
        cases before with
        | nil =>
          cases hsplit
          exact h
        | cons first before =>
          cases hsplit
          exact absurd (hbefore o List.mem_cons_self) ho

/-! ## Format and paths -/

theorem not_isLong_of_not_isScalar {d : Datum} (h : d.isScalar = false) : ¬d.IsLong := by
  rintro ⟨n, rfl, _⟩
  cases h

/-- Reading the format comes upon a long number exactly if it stands there. -/
theorem readFormat_unwritable_iff (entries : List (Datum × Datum)) :
    readFormat entries = .error .unwritable ↔ ∃ d, Datum.lookup "format" entries = some d ∧ d.IsLong := by
  unfold readFormat
  cases hfound : Datum.lookup "format" entries with
  | none => simp [pure, Except.pure]
  | some d =>
    cases hscalar : d.isScalar with
    | false =>
      have hshort := not_isLong_of_not_isScalar hscalar
      simp [Option.filter, hscalar, hshort, pure, Except.pure]
    | true =>
      simp only [Option.filter, hscalar, ↓reduceIte, Option.some.injEq, exists_eq_left']
      cases htext : textOf d with
      | error p =>
        obtain ⟨hlong, rfl⟩ := (textOf_error_iff d p).mp htext
        exact iff_of_true rfl hlong
      | ok w =>
        refine iff_of_false ?_ (not_isLong_of_textOf htext)
        simp only [bind, Except.bind]
        split
        · exact fun h => by cases h
        · split <;> exact fun h => by cases h

theorem mapM_textOf_unwritable_iff (items : List Datum) :
    items.mapM textOf = .error .unwritable ↔ ∃ item ∈ items, item.IsLong := by
  induction items with
  | nil => simp [pure, Except.pure]
  | cons item items ih =>
    rw [List.mapM_cons]
    cases htext : textOf item with
    | error p =>
      obtain ⟨hlong, rfl⟩ := (textOf_error_iff item p).mp htext
      exact iff_of_true rfl ⟨item, List.mem_cons_self, hlong⟩
    | ok w =>
      have hshort : ¬item.IsLong := not_isLong_of_textOf htext
      simp only [List.mem_cons, exists_eq_or_imp, hshort, false_or, ← ih]
      cases items.mapM textOf with
      | error p => rfl
      | ok ws => exact iff_of_false (fun h => by cases h) (fun h => by cases h)

/-- Reading the paths comes upon a long number exactly if they are a list with one in it. -/
theorem readPaths_unwritable_iff (d : Datum) :
    readPaths d = .error .unwritable ↔ ∃ items, d = .list items ∧ ∃ item ∈ items, item.IsLong := by
  cases d with
  | list items =>
    rw [readPaths, mapM_textOf_unwritable_iff]
    constructor
    · rintro ⟨item, hitem, hlong⟩
      exact ⟨items, rfl, item, (List.mem_filter.mp hitem).1, hlong⟩
    · rintro ⟨items', hitems, item, hitem, hlong⟩
      cases hitems
      refine ⟨item, List.mem_filter.mpr ⟨hitem, ?_⟩, hlong⟩
      obtain ⟨n, rfl, _⟩ := hlong
      rfl
  | null | bool b | int n | real x | text w | bytes bs | time t | map entries | set members | deeper =>
    simp [readPaths]

/-! ## Settings -/

/-- Entries of settings with a number that has to be written and is too long for it: the key of an option, the
format, or a path, where what is read before it is as it should be. -/
inductive Overlong (entries : List (Datum × Datum)) : Prop
  | key (before after : List (Datum × Datum)) (o : Datum × Datum)
      (hoptions : optionEntries entries = .ok (before ++ o :: after)) (hbefore : ∀ o ∈ before, IsOption o)
      (hlong : o.1.IsLong)
  | format (options : List (Datum × Datum)) (d : Datum) (hoptions : optionEntries entries = .ok options)
      (hall : ∀ o ∈ options, IsOption o) (hformat : Datum.lookup "format" entries = some d) (hlong : d.IsLong)
  | path (options : List (Datum × Datum)) (format : Report.Format) (items : List Datum) (item : Datum)
      (hoptions : optionEntries entries = .ok options) (hall : ∀ o ∈ options, IsOption o)
      (hformat : readFormat entries = .ok format)
      (hpaths : Datum.lookup "exclude_paths" entries = some (.list items)) (hitem : item ∈ items) (hlong : item.IsLong)

theorem optionEntries_ne_unwritable (entries : List (Datum × Datum)) :
    optionEntries entries ≠ .error .unwritable := by
  unfold optionEntries
  split <;> simp

theorem ofEntries_unwritable_iff (entries : List (Datum × Datum)) :
    ofEntries entries = .error .unwritable ↔ Overlong entries := by
  simp only [ofEntries, bind_error_iff, optionEntries_ne_unwritable, readOptions_unwritable_iff,
    readFormat_unwritable_iff, readPaths_unwritable_iff, false_or]
  constructor
  · rintro ⟨options, hoptions, ⟨before, o, after, rfl, hbefore, hlong⟩ | ⟨read, hread, hrest⟩⟩
    · exact .key before after o hoptions hbefore hlong
    · have hall := (readOptions_ok_iff _ options).mp ⟨read, hread⟩
      rcases hrest with ⟨d, hformat, hlong⟩
        | ⟨format, hformat, ⟨items, hpaths, item, hitem, hlong⟩ | ⟨_, _, hpure⟩⟩
      · exact .format options d hoptions hall hformat hlong
      · refine .path options format items item hoptions hall hformat ?_ hitem hlong
        cases hfound : Datum.lookup "exclude_paths" entries with
        | none => simp [hfound] at hpaths
        | some d => rw [← hpaths, hfound, Option.getD_some]
      · cases hpure
  · rintro (⟨before, after, o, hoptions, hbefore, hlong⟩ | ⟨options, d, hoptions, hall, hformat, hlong⟩
      | ⟨options, format, items, item, hoptions, hall, hformat, hpaths, hitem, hlong⟩)
    · exact ⟨_, hoptions, Or.inl ⟨before, o, after, rfl, hbefore, hlong⟩⟩
    · obtain ⟨read, hread⟩ := (readOptions_ok_iff (fun _ => none) options).mpr hall
      exact ⟨options, hoptions, Or.inr ⟨read, hread, Or.inl ⟨d, hformat, hlong⟩⟩⟩
    · obtain ⟨read, hread⟩ := (readOptions_ok_iff (fun _ => none) options).mpr hall
      have hlist : (Datum.lookup "exclude_paths" entries).getD .null = .list items := by
        rw [hpaths, Option.getD_some]
      exact ⟨options, hoptions,
        Or.inr ⟨read, hread, Or.inr ⟨format, hformat, Or.inl ⟨items, hlist, item, hitem, hlong⟩⟩⟩⟩

/-- Reading settings comes upon a long number exactly if the data are a mapping with such entries. -/
theorem ofDatum_unwritable_iff (d : Datum) :
    ofDatum d = .error .unwritable ↔ ∃ entries, d = .map entries ∧ Overlong entries := by
  have hempty : ¬Overlong [] := by
    rw [← ofEntries_unwritable_iff]
    exact fun h => by cases h
  have hother : ¬ofEntries [] = .error .unwritable := fun h => hempty ((ofEntries_unwritable_iff []).mp h)
  unfold ofDatum
  cases hd : d.truthy with
  | false =>
    refine iff_of_false hother ?_
    rintro ⟨entries, rfl, hlong⟩
    have hnil : entries = [] := by simpa [Datum.truthy] using hd
    exact hempty (hnil ▸ hlong)
  | true =>
    cases d with
    | map entries => simp [ofEntries_unwritable_iff]
    | null | bool b | int n | real x | text w | bytes bs | time t | list items | set members | deeper => simp

end Settings

end DartSurvey
