import DartSurvey.Proofs.Dart.Head

/-!
# Whole words

- Blanks are no word characters (`not_isWordChar_of_isBlank`), so a word ends where blanks start.
- A modifier is read exactly where its keyword is a whole word (`strip?_eq_some_iff`): behind any
  blanks, the word at the start of a text is a modifier if it is the keyword of one (`take?_keyword`)
  and none if it is no keyword (`take?_eq_none`).
- A word is found in a text exactly if the text can be cut around it with no word character next to it
  on either side (`hasWord_iff`).
-/

namespace DartSurvey.Dart

open Text

/-! ## Blanks and words -/

/-- The tables of blanks and of word characters have no code point in common. -/
theorem blankCodes_apart_wordCodes : ∀ r ∈ blankCodes, ∀ s ∈ wordCodes, r.2 < s.1 ∨ s.2 < r.1 := by
  decide +kernel

/-- What holds of the first 128 code points holds of each ASCII character. -/
theorem of_ascii (P : Char → Prop) (h : ∀ n < 128, P (Char.ofNat n)) {c : Char} (hc : c.toNat < 128) :
    P c := by
  have hn := h c.toNat hc
  rwa [Char.ofNat_toNat] at hn

theorem not_isWordChar_of_isBlank {c : Char} (h : isBlank c = true) : isWordChar c = false := by
  by_cases hc : c.toNat < 128
  · exact of_ascii (fun c => isBlank c = true → isWordChar c = false) (by decide) hc h
  · obtain ⟨r, hr, hge, hle⟩ := (CodePoints.has_iff _ _).mp h
    rw [isWordChar, if_neg hc, ← Bool.not_eq_true, CodePoints.has_iff]
    rintro ⟨s, hs, hge', hle'⟩
    rcases blankCodes_apart_wordCodes r hr s hs with hlt | hlt <;> omega

/-- A text that starts with a blank, or is empty, starts with no word. -/
theorem not_startsWord_of_isBlank {gap : List Char} (h : gap.all isBlank = true) (hne : gap ≠ [])
    (rest : List Char) : startsWord (gap ++ rest) = false := by
  obtain ⟨c, cs, rfl⟩ := List.exists_cons_of_ne_nil hne
  rw [List.all_cons, Bool.and_eq_true] at h
  exact not_isWordChar_of_isBlank h.1

theorem startsWord_eq_false_iff {cs : List Char} :
    startsWord cs = false ↔ ∀ c ∈ cs.head?, isWordChar c = false := by
  cases cs with
  | nil => simp [startsWord]
  | cons c cs => simp [startsWord]

theorem endsWord_eq_false_iff {cs : List Char} :
    endsWord cs = false ↔ ∀ c ∈ cs.getLast?, isWordChar c = false := by
  rw [endsWord]
  cases cs.getLast? <;> simp

/-! ## Keywords -/

theorem keyword_injective {m m' : Modifier} (h : m.keyword = m'.keyword) : m = m' := by
  revert h
  cases m <;> cases m' <;> decide

/-- The word at the start of a text. -/
def firstWord (cs : List Char) : List Char := cs.takeWhile isWordChar

theorem firstWord_append {word rest : List Char} (hword : ∀ c ∈ word, isWordChar c = true)
    (hrest : startsWord rest = false) : firstWord (word ++ rest) = word := by
  rw [firstWord, List.takeWhile_append_of_pos hword]
  cases rest with
  | nil => simp
  | cons c cs =>
    change isWordChar c = false at hrest
    simp [hrest]

/-- The keyword of a modifier is taken off where it stands and no word character follows. -/
theorem strip?_eq_some_iff {m : Modifier} {cs rest : List Char} :
    m.strip? cs = some rest ↔ cs = m.keyword.toList ++ rest ∧ startsWord rest = false := by
  simp only [Modifier.strip?, Option.ite_none_right_eq_some, Bool.and_eq_true, Bool.not_eq_true',
    List.isPrefixOf_iff_prefix, Option.some.injEq]
  constructor
  · rintro ⟨⟨⟨t, rfl⟩, hstarts⟩, rfl⟩
    rw [List.drop_left] at hstarts ⊢
    exact ⟨rfl, hstarts⟩
  · rintro ⟨rfl, hstarts⟩
    rw [List.drop_left]
    exact ⟨⟨List.prefix_append _ _, hstarts⟩, rfl⟩

/-- Where a keyword is taken off it is the first word. -/
theorem firstWord_of_strip? {m : Modifier} {cs rest : List Char} (h : m.strip? cs = some rest) :
    firstWord cs = m.keyword.toList := by
  obtain ⟨rfl, hstarts⟩ := strip?_eq_some_iff.mp h
  exact firstWord_append (isWordChar_keyword m) hstarts

theorem keyword_ne_nil (m : Modifier) : m.keyword.toList ≠ [] := by
  cases m <;> decide

theorem trimStart_keyword (m : Modifier) (rest : List Char) :
    trimStart (m.keyword.toList ++ rest) = m.keyword.toList ++ rest := by
  apply trimStart_solid
  rw [List.head?_append_of_ne_nil _ (keyword_ne_nil m)]
  intro c hc
  have hword := isWordChar_keyword m c (List.mem_of_mem_head? hc)
  rw [← Bool.not_eq_true]
  intro hblank
  rw [not_isWordChar_of_isBlank hblank] at hword
  cases hword

/-- A keyword that is a whole word is read as its modifier. -/
theorem take?_keyword (m : Modifier) {gap rest : List Char} (hgap : gap.all isBlank = true)
    (hrest : startsWord rest = false) :
    Modifier.take? (gap ++ (m.keyword.toList ++ rest)) = some (m, rest) := by
  have hstrip : m.strip? (m.keyword.toList ++ rest) = some rest := strip?_eq_some_iff.mpr ⟨rfl, hrest⟩
  rw [take?_blank hgap, Modifier.take?, trimStart_keyword]
  cases hfound : Modifier.all.findSome? fun m' => (m'.strip? (m.keyword.toList ++ rest)).map (m', ·) with
  | none =>
    have hnone := List.findSome?_eq_none_iff.mp hfound m (by cases m <;> decide)
    rw [hstrip] at hnone
    cases hnone
  | some found =>
    -- no other keyword is the word at the start
    obtain ⟨m', -, hm'⟩ := List.exists_of_findSome?_eq_some hfound
    obtain ⟨rest', hrest', rfl⟩ := Option.map_eq_some_iff.mp hm'
    have hword := (firstWord_of_strip? hrest').symm.trans (firstWord_of_strip? hstrip)
    obtain rfl := keyword_injective (String.toList_inj.mp hword)
    rw [hstrip] at hrest'
    cases hrest'
    rfl

/-- A word that is no keyword is not read as a modifier. -/
theorem take?_eq_none {gap cs : List Char} (hgap : gap.all isBlank = true)
    (hsolid : ∀ c ∈ cs.head?, isBlank c = false)
    (hword : ∀ m : Modifier, firstWord cs ≠ m.keyword.toList) : Modifier.take? (gap ++ cs) = none := by
  rw [take?_blank hgap, Modifier.take?, trimStart_solid hsolid, List.findSome?_eq_none_iff]
  intro m _
  rw [Option.map_eq_none_iff, Option.eq_none_iff_forall_ne_some]
  intro rest hrest
  exact hword m (firstWord_of_strip? hrest)

/-! ## Looking for a word -/

/-- A word is found where a text can be cut around it; before the text there may be a word character. -/
theorem hasWord_iff_cut (word : List Char) (inside : Bool) (cs : List Char) :
    hasWord word inside cs = true ↔
      ∃ front back, cs = front ++ (word ++ back) ∧ (front.getLast?.map isWordChar).getD inside = false ∧
        startsWord back = false := by
  induction cs generalizing inside with
  | nil =>
    rw [hasWord]
    constructor
    · intro h
      simp only [Bool.and_eq_true, Bool.not_eq_true', List.isEmpty_iff] at h
      exact ⟨[], [], by rw [h.2]; rfl, h.1, rfl⟩
    · rintro ⟨front, back, h, hinside, -⟩
      obtain ⟨rfl, hrest⟩ := List.append_eq_nil_iff.mp h.symm
      rw [(List.append_eq_nil_iff.mp hrest).1]
      change inside = false at hinside
      rw [hinside]
      rfl
  | cons c cs ih =>
    rw [hasWord]
    simp only [Bool.or_eq_true, Bool.and_eq_true, Bool.not_eq_true', List.isPrefixOf_iff_prefix, ih]
    constructor
    · rintro (⟨⟨hinside, ⟨back, hback⟩⟩, hstarts⟩ | ⟨front, back, rfl, hfront, hstarts⟩)
      · rw [← hback, List.drop_left] at hstarts
        exact ⟨[], back, hback.symm, hinside, hstarts⟩
      · refine ⟨c :: front, back, rfl, ?_, hstarts⟩
        rw [List.getLast?_cons]
        cases hlast : front.getLast? <;> simpa [hlast] using hfront
    · rintro ⟨front, back, hcs, hfront, hstarts⟩
      cases front with
      | nil =>
        refine Or.inl ⟨⟨hfront, ⟨back, hcs.symm⟩⟩, ?_⟩
        rw [hcs, List.nil_append, List.drop_left]
        exact hstarts
      | cons d front =>
        obtain ⟨rfl, rfl⟩ := List.cons.inj hcs
        refine Or.inr ⟨front, back, rfl, ?_, hstarts⟩
        rw [List.getLast?_cons] at hfront
        cases hlast : front.getLast? <;> simpa [hlast] using hfront

/-- A word is found in a text exactly if the text can be cut around it with no word character next to
it. -/
theorem hasWord_iff (word cs : List Char) :
    hasWord word false cs = true ↔
      ∃ front back, cs = front ++ (word ++ back) ∧ endsWord front = false ∧ startsWord back = false := by
  have hends : ∀ front : List Char, (front.getLast?.map isWordChar).getD false = endsWord front := by
    intro front
    rw [endsWord]
    cases front.getLast? <;> rfl
  simp only [hasWord_iff_cut, hends]

end DartSurvey.Dart
