import DartSurvey.Proofs.Settings.Overlong
import Mathlib.Data.List.Basic

/-!
# Options of settings

- `Names` and `Says` describe an entry of the options without regard to how it is read: what its key names, with
  hyphens for underscores or not, and whether its value says that the option is on or off. An entry is read
  exactly if its key names an option and its value says either (`isOption_iff`).
- Of the entries that name an option the last one counts (`readOptions_eq_some_iff`), whatever stands between.
- Where no two entries name the same option, every entry counts, wherever it stands (`lastSays_iff_mem`), so the
  options are the same in every order (`readOptions_perm`).
-/

namespace DartSurvey

open Yaml (Datum)
open Text (Wide)

theorem Text.Wide.chars?_eq_some_iff {w : Wide} {cs : List Char} : w.chars? = some cs ↔ w = ofChars cs := by
  constructor
  · intro h
    induction w generalizing cs with
    | nil =>
      cases h
      rfl
    | cons g w ih =>
      cases g with
      | half n => cases h
      | char c =>
        obtain ⟨ds, hds, rfl⟩ := Option.map_eq_some_iff.mp h
        rw [ih hds]
        rfl
  · rintro rfl
    exact chars?_ofChars cs

theorem Text.Wide.text?_eq_some_iff {w : Wide} {s : String} : w.text? = some s ↔ w = ofString s := by
  rw [text?, Option.map_eq_some_iff, ofString]
  constructor
  · rintro ⟨cs, hcs, rfl⟩
    rw [chars?_eq_some_iff.mp hcs, String.toList_ofList]
  · rintro rfl
    exact ⟨s.toList, chars?_ofChars _, String.ofList_toList⟩

namespace Settings

/-! ## What an entry says -/

/-- A text with underscores for hyphens. -/
def underscored (w : Wide) : Wide := w.map fun g => if g == .char '-' then .char '_' else g

/-- That a key names an option, with hyphens or underscores. -/
def Names (key : Datum) (s : Switch) : Prop :=
  s ∈ optionSwitches ∧ ∃ w, key.written? = some w ∧ underscored w = Wide.ofString s.key

/-- The words for on and for off. -/
def wordsFor : Bool → List String
  | true => ["true", "yes", "1"]
  | false => ["false", "no", "0"]

/-- That a value says on or off: it is a truth value, or a text that is a word for it between blanks, in letters of
either case. -/
def Says (v : Datum) (b : Bool) : Prop :=
  v = .bool b ∨ ∃ cs, v = .text (Wide.ofChars cs) ∧ String.ofList (Text.lowerCase (Text.trim cs)) ∈ wordsFor b

theorem key_injective_on_options : ∀ s ∈ optionSwitches, ∀ t ∈ optionSwitches, s.key = t.key → s = t := by
  decide

theorem option?_eq_some_iff {key : String} {s : Switch} : option? key = some s ↔ s ∈ optionSwitches ∧ s.key = key := by
  constructor
  · intro h
    exact ⟨List.mem_of_find?_eq_some h, by simpa using List.find?_some h⟩
  · rintro ⟨hs, rfl⟩
    have hall : ∀ s ∈ optionSwitches, option? s.key = some s := by decide
    exact hall s hs

theorem writtenOption?_eq_some_iff {w : Wide} {s : Switch} :
    writtenOption? w = some s ↔ s ∈ optionSwitches ∧ underscored w = Wide.ofString s.key := by
  simp only [writtenOption?, Option.bind_eq_some_iff, option?_eq_some_iff, Wide.text?_eq_some_iff]
  constructor
  · rintro ⟨key, hkey, hs, rfl⟩
    exact ⟨hs, hkey⟩
  · rintro ⟨hs, hkey⟩
    exact ⟨s.key, hkey, hs, rfl⟩

theorem ofString_injective {s t : String} (h : Wide.ofString s = Wide.ofString t) : s = t := by
  rw [← Wide.joined_ofString s, ← Wide.joined_ofString t, h]

/-- A key names one option at most. -/
theorem Names.unique {key : Datum} {s t : Switch} (hs : Names key s) (ht : Names key t) : s = t := by
  obtain ⟨hs, w, hw, hkey⟩ := hs
  obtain ⟨ht, w', hw', hkey'⟩ := ht
  rw [hw] at hw'
  cases hw'
  exact key_injective_on_options s hs t ht (ofString_injective (hkey.symm.trans hkey'))

theorem textOf_eq_ok_iff {d : Datum} {w : Wide} : textOf d = .ok w ↔ d.written? = some w := by
  rw [textOf]
  cases d.written? <;> simp

theorem names_iff {key : Datum} {s : Switch} :
    Names key s ↔ ∃ w, textOf key = .ok w ∧ writtenOption? w = some s := by
  simp only [Names, textOf_eq_ok_iff, writtenOption?_eq_some_iff]
  constructor
  · rintro ⟨hs, w, hw, hkey⟩
    exact ⟨w, hw, hs, hkey⟩
  · rintro ⟨w, hw, hs, hkey⟩
    exact ⟨hs, w, hw, hkey⟩

/-- No word is one for on and for off. -/
theorem not_mem_wordsFor_false {word : String} (h : word ∈ wordsFor true) : word ∉ wordsFor false := by
  have hall : ∀ word ∈ wordsFor true, word ∉ wordsFor false := by decide
  exact hall word h

theorem truth?_eq_some_iff {v : Datum} {b : Bool} : truth? v = some b ↔ Says v b := by
  cases v with
  | bool c => simp [truth?, Says]
  | text w =>
    have hsaid : Says (.text w) b ↔
        ∃ cs, w.chars? = some cs ∧ String.ofList (Text.lowerCase (Text.trim cs)) ∈ wordsFor b := by
      simp [Says, Wide.chars?_eq_some_iff]
    rw [hsaid, truth?, Option.bind_eq_some_iff]
    refine exists_congr fun cs => and_congr_right fun _ => ?_
    generalize String.ofList (Text.lowerCase (Text.trim cs)) = word
    show (if (wordsFor true).contains word then some true
      else if (wordsFor false).contains word then some false else none) = some b ↔ word ∈ wordsFor b
    simp only [List.contains_iff_mem]
    by_cases hon : word ∈ wordsFor true
    · have hoff := not_mem_wordsFor_false hon
      cases b <;> simp [hon, hoff]
    · by_cases hoff : word ∈ wordsFor false
      · cases b <;> simp [hon, hoff]
      · cases b <;> simp [hon, hoff]
  | null | int _ | real _ | bytes _ | time _ | list _ | map _ | set _ | deeper => simp [truth?, Says]

theorem Says.unique {v : Datum} {b c : Bool} (hb : Says v b) (hc : Says v c) : b = c := by
  rw [← truth?_eq_some_iff] at hb hc
  exact Option.some.inj (hb.symm.trans hc)

/-- An entry is read exactly if its key names an option and its value says on or off. -/
theorem isOption_iff {o : Datum × Datum} : IsOption o ↔ (∃ s, Names o.1 s) ∧ ∃ b, Says o.2 b := by
  simp only [names_iff, ← truth?_eq_some_iff]
  constructor
  · rintro ⟨key, s, b, hkey, hs, hb⟩
    exact ⟨⟨s, key, hkey, hs⟩, b, hb⟩
  · rintro ⟨⟨s, key, hkey, hs⟩, b, hb⟩
    exact ⟨key, s, b, hkey, hs, hb⟩

/-! ## The last entry counts -/

/-- That the last entry that names an option says on or off. -/
def LastSays (options : List (Datum × Datum)) (s : Switch) (b : Bool) : Prop :=
  ∃ before o after, options = before ++ o :: after ∧ Names o.1 s ∧ Says o.2 b ∧ ∀ o' ∈ after, ¬Names o'.1 s

theorem lastSays_cons {o : Datum × Datum} {rest : List (Datum × Datum)} {s : Switch} {b : Bool} :
    LastSays (o :: rest) s b ↔
      LastSays rest s b ∨ Names o.1 s ∧ Says o.2 b ∧ ∀ o' ∈ rest, ¬Names o'.1 s := by
  constructor
  · rintro ⟨before, o', after, hsplit, hlast⟩
    cases before with
    | nil =>
      cases hsplit
      exact .inr hlast
    | cons first before =>
      cases hsplit
      exact .inl ⟨before, o', after, rfl, hlast⟩
  · rintro (⟨before, o', after, rfl, hlast⟩ | hlast)
    · exact ⟨o :: before, o', after, rfl, hlast⟩
    · exact ⟨[], o, rest, rfl, hlast⟩

theorem LastSays.exists_names {options : List (Datum × Datum)} {s : Switch} {b : Bool} (h : LastSays options s b) :
    ∃ o ∈ options, Names o.1 s ∧ Says o.2 b := by
  obtain ⟨before, o, after, rfl, hnames, hsaid, _⟩ := h
  exact ⟨o, by simp, hnames, hsaid⟩

/-- What is read from an entry and those behind it. -/
theorem readOptions_cons_eq_ok {start read : Switch → Option Bool} {o : Datum × Datum} {rest : List (Datum × Datum)}
    (h : readOptions start (o :: rest) = .ok read) :
    ∃ s b, Names o.1 s ∧ Says o.2 b ∧ readOptions (setOption start s b) rest = .ok read := by
  obtain ⟨key, hkey, hrest⟩ := bind_ok_iff.mp h
  split at hrest
  · cases hrest
  · rename_i s hs
    split at hrest
    · cases hrest
    · rename_i b hb
      exact ⟨s, b, names_iff.mpr ⟨key, hkey, hs⟩, truth?_eq_some_iff.mp hb, hrest⟩

/-- **The last entry counts.** An option is read as the last entry that names it says, and where no entry names it, it
stays as it was. -/
theorem readOptions_eq_some_iff {start read : Switch → Option Bool} {options : List (Datum × Datum)}
    (h : readOptions start options = .ok read) (s : Switch) (b : Bool) :
    read s = some b ↔ LastSays options s b ∨ (∀ o ∈ options, ¬Names o.1 s) ∧ start s = some b := by
  induction options generalizing start with
  | nil =>
    cases h
    simp [LastSays]
  | cons o rest ih =>
    obtain ⟨t, c, hnames, hsaid, hrest⟩ := readOptions_cons_eq_ok h
    rw [ih hrest, lastSays_cons, List.forall_mem_cons]
    by_cases hst : s = t
    · subst hst
      have hc : Says o.2 b ↔ c = b := ⟨hsaid.unique, fun hcb => hcb ▸ hsaid⟩
      simp only [setOption, ↓reduceIte, Option.some.injEq, hnames, hc, true_and, not_true_eq_false, false_and,
        or_false]
      rw [and_comm]
    · have hother : ¬Names o.1 s := fun hs => hst (hs.unique hnames)
      simp only [setOption, hst, ↓reduceIte, hother, false_and, or_false, not_false_eq_true, true_and]

/-! ## The order of the entries -/

/-- That no two entries name the same option. -/
def Apart (options : List (Datum × Datum)) : Prop :=
  options.Pairwise fun o o' => ∀ s, ¬(Names o.1 s ∧ Names o'.1 s)

theorem Apart.perm {options options' : List (Datum × Datum)} (h : Apart options) (hperm : options.Perm options') :
    Apart options' := by
  refine (hperm.pairwise_iff ?_).mp h
  intro o o' hapart s hboth
  exact hapart s hboth.symm

/-- Where no two entries name the same option, each of them counts. -/
theorem lastSays_iff_mem {options : List (Datum × Datum)} (h : Apart options) {s : Switch} {b : Bool} :
    LastSays options s b ↔ ∃ o ∈ options, Names o.1 s ∧ Says o.2 b := by
  refine ⟨LastSays.exists_names, ?_⟩
  rintro ⟨o, ho, hnames, hsaid⟩
  obtain ⟨before, after, rfl⟩ := List.append_of_mem ho
  refine ⟨before, o, after, rfl, hnames, hsaid, ?_⟩
  intro o' ho' hnames'
  have hbehind := (List.pairwise_cons.mp (List.pairwise_append.mp h).2.1).1
  exact hbehind o' ho' s ⟨hnames, hnames'⟩

/-- Options that are apart are the same in every order. -/
theorem readOptions_perm {read : Switch → Option Bool} {options options' : List (Datum × Datum)} (h : Apart options)
    (hperm : options.Perm options') (hread : readOptions (fun _ => none) options = .ok read) :
    readOptions (fun _ => none) options' = .ok read := by
  have hall : ∀ o ∈ options', IsOption o := by
    intro o ho
    exact (readOptions_ok_iff _ options).mp ⟨read, hread⟩ o (hperm.mem_iff.mpr ho)
  obtain ⟨read', hread'⟩ := (readOptions_ok_iff (fun _ => none) options').mpr hall
  have hsame : read' = read := by
    funext s
    apply Option.ext
    intro b
    rw [readOptions_eq_some_iff hread', readOptions_eq_some_iff hread, lastSays_iff_mem h,
      lastSays_iff_mem (h.perm hperm)]
    simp only [hperm.mem_iff, reduceCtorEq, and_false, or_false]
  rw [hread', hsame]

end Settings

end DartSurvey
