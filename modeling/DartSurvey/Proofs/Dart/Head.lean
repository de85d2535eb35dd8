import DartSurvey.Dart.Comment
import DartSurvey.Dart.Modifier
import DartSurvey.Dart.TypeText
import Mathlib.Data.List.Basic
import Mathlib.Data.List.TakeWhile

/-!
# Heads of declarations in two parts

The head of a field declaration is the text before its names: modifiers and a type. Here it is cut
in two, at a point that no word reaches across (`CleanCut`).

- The modifiers at the start of the first part are those at the start of the whole, and the
  modifiers of the second part follow if the first part holds nothing else
  (`leadingModifiers_append_blank`, `leadingModifiers_append_solid`).
- A written type keeps its characters other than blanks (`solid_normaliseTypeChars`), and blanks
  before it do not matter (`normaliseTypeChars_blank`).
-/

namespace DartSurvey.Dart

open Text

/-! ## Written types -/

/-- The characters of a text that are not blank. -/
def solid (cs : List Char) : List Char := cs.filter fun c => !isBlank c

theorem isBlank_space : isBlank ' ' = true := by decide

theorem solid_append (a b : List Char) : solid (a ++ b) = solid a ++ solid b := List.filter_append ..

theorem solid_cons_blank {c : Char} (h : isBlank c = true) (cs : List Char) :
    solid (c :: cs) = solid cs := by
  simp [solid, h]

theorem solid_cons_solid {c : Char} (h : ¬isBlank c = true) (cs : List Char) :
    solid (c :: cs) = c :: solid cs := by
  simp [solid, h]

theorem solid_eq_nil {cs : List Char} : solid cs = [] ↔ cs.all isBlank = true := by
  simp [solid]

/-- Words with spaces between them have the characters of the words. -/
theorem solid_intersperse (ws : List (List Char)) :
    solid (ws.intersperse [' ']).flatten = solid ws.flatten := by
  have hspace : solid [' '] = [] := by simp [solid, isBlank_space]
  induction ws with
  | nil => rfl
  | cons w ws ih =>
    cases ws with
    | nil => rfl
    | cons v vs =>
      rw [List.intersperse_cons_cons, List.flatten_cons, List.flatten_cons, List.flatten_cons,
        solid_append, solid_append, solid_append, ih, hspace, List.nil_append]

theorem flatten_words (cs : List Char) : (words cs).flatten = solid cs := by
  fun_induction words cs with
  | case1 => rfl
  | case2 c cs h ih => rw [ih, solid_cons_blank h]
  | case3 c h => simp [solid, h]
  | case4 c h d cs hd ih => rw [List.flatten_cons, ih, solid_cons_solid h, List.singleton_append]
  | case5 c h d cs hd hw ih =>
    rw [hw, List.flatten_nil] at ih
    rw [hw, solid_cons_solid h, ← ih]
    rfl
  | case6 c h d cs hd w ws hw ih =>
    rw [hw, List.flatten_cons] at ih
    rw [hw, solid_cons_solid h, ← ih]
    rfl

theorem solid_solid (cs : List Char) : solid (solid cs) = solid cs := by
  simp [solid]

theorem solid_squeeze (cs : List Char) : solid (squeeze cs) = solid cs := by
  rw [squeeze, solid_intersperse, flatten_words, solid_solid]

theorem solid_closeBefore (cs : List Char) : solid (closeBefore cs) = solid cs := by
  fun_induction closeBefore cs with
  | case1 => rfl
  | case2 c cs h ih => rw [ih, solid_cons_blank (Bool.and_eq_true_iff.mp h).1]
  | case3 c cs h ih => simp only [solid, List.filter_cons] at ih ⊢; rw [ih]

theorem solid_closeAfter (opened : Bool) (cs : List Char) : solid (closeAfter opened cs) = solid cs := by
  fun_induction closeAfter opened cs with
  | case1 => rfl
  | case2 opened c cs h ih => rw [ih, solid_cons_blank (Bool.and_eq_true_iff.mp h).2]
  | case3 opened c cs h ih => simp only [solid, List.filter_cons] at ih ⊢; rw [ih]

theorem solid_spaceCommas (after : Bool) (cs : List Char) : solid (spaceCommas after cs) = solid cs := by
  fun_induction spaceCommas after cs with
  | case1 => rfl
  | case2 after c cs h ih => rw [ih, solid_cons_blank (Bool.and_eq_true_iff.mp h).1]
  | case3 after c cs h hc ih =>
    have hcomma : ¬isBlank ',' = true := by decide
    rw [beq_iff_eq.mp hc, solid_cons_solid hcomma, solid_cons_solid hcomma,
      solid_cons_blank isBlank_space, ih]
  | case4 after c cs h hc ih => simp only [solid, List.filter_cons] at ih ⊢; rw [ih]

/-- A written type keeps its characters other than blanks. -/
theorem solid_normaliseTypeChars (cs : List Char) : solid (normaliseTypeChars cs) = solid cs := by
  rw [normaliseTypeChars, solid_spaceCommas, solid_closeAfter, solid_closeBefore, solid_squeeze]

/-- Blanks before a type do not matter. -/
theorem normaliseTypeChars_blank {a : List Char} (h : a.all isBlank = true) (b : List Char) :
    normaliseTypeChars (a ++ b) = normaliseTypeChars b := by
  have hwords : words (a ++ b) = words b := by
    induction a with
    | nil => rfl
    | cons c a ih =>
      rw [List.all_cons, Bool.and_eq_true] at h
      rw [List.cons_append, words.eq_def]
      simp only [h.1, ↓reduceIte, ih h.2]
  rw [normaliseTypeChars, normaliseTypeChars, squeeze, squeeze, hwords]

/-! ## Modifiers -/

/-- Whether a text ends with a word character. -/
def endsWord (cs : List Char) : Bool := cs.getLast?.any isWordChar

/-- That no word reaches from one text into the next. -/
def CleanCut (a b : List Char) : Prop := ¬(endsWord a = true ∧ startsWord b = true)

theorem CleanCut.suffix {a r b : List Char} (h : CleanCut a b) (hr : r <:+ a) : CleanCut r b := by
  rintro ⟨hends, hstarts⟩
  refine h ⟨?_, hstarts⟩
  obtain ⟨t, rfl⟩ := hr
  cases r with
  | nil => simp [endsWord] at hends
  | cons c r =>
    rw [endsWord, List.getLast?_append_of_ne_nil _ (List.cons_ne_nil c r)]
    exact hends

theorem isWordChar_keyword (m : Modifier) : ∀ c ∈ m.keyword.toList, isWordChar c = true := by
  rw [← List.all_eq_true]
  cases m <;> rfl

/-- A part of a keyword ends with a word character. -/
theorem endsWord_of_isPrefix {m : Modifier} {x : List Char} (hx : x ≠ []) (h : x <+: m.keyword.toList) :
    endsWord x = true := by
  rw [endsWord, List.getLast?_eq_some_getLast hx]
  exact isWordChar_keyword m _ (h.subset (List.getLast_mem hx))

/-- Whether the keyword of a modifier stands at the start of a text does not depend on what follows
the text. -/
theorem strip?_append (m : Modifier) {x b : List Char} (hx : x ≠ []) (h : CleanCut x b) :
    m.strip? (x ++ b) = (m.strip? x).map (· ++ b) := by
  simp only [Modifier.strip?]
  by_cases hle : m.keyword.toList.length ≤ x.length
  · have hstart : m.keyword.toList.isPrefixOf (x ++ b) = m.keyword.toList.isPrefixOf x := by
      rw [Bool.eq_iff_iff, List.isPrefixOf_iff_prefix, List.isPrefixOf_iff_prefix]
      exact ⟨fun hp => List.prefix_of_prefix_length_le hp (List.prefix_append x b) hle,
        fun hp => hp.trans (List.prefix_append x b)⟩
    rw [hstart, List.drop_append_of_le_length hle]
    by_cases hp : m.keyword.toList.isPrefixOf x = true
    · have hstarts : startsWord (x.drop m.keyword.toList.length ++ b)
        = startsWord (x.drop m.keyword.toList.length) := by
        cases hd : x.drop m.keyword.toList.length with
        | cons c cs => rfl
        | nil =>
          -- the keyword is all of the text, so no word may follow
          have heq : m.keyword.toList = x :=
            (List.isPrefixOf_iff_prefix.mp hp).eq_of_length_le (List.drop_eq_nil_iff.mp hd)
          have hends := endsWord_of_isPrefix hx ⟨[], by rw [heq, List.append_nil]⟩
          simpa [startsWord] using fun hb => h ⟨hends, hb⟩
      rw [hstarts]
      split <;> rfl
    · simp [hp]
  · have hshort : ¬m.keyword.toList.isPrefixOf x = true := by
      rw [List.isPrefixOf_iff_prefix]
      exact fun hp => hle hp.length_le
    have hlong : ¬m.keyword.toList.isPrefixOf (x ++ b) = true := by
      rw [List.isPrefixOf_iff_prefix]
      intro hp
      -- a keyword that ends behind the cut would be a word across it
      have hxm := List.prefix_of_prefix_length_le (List.prefix_append x b) hp (by omega)
      obtain ⟨t, ht⟩ := hxm
      rw [← ht] at hp hle
      cases t with
      | nil => simp at hle
      | cons c t =>
        obtain ⟨u, hu⟩ := (List.prefix_append_right_inj x).mp hp
        refine h ⟨endsWord_of_isPrefix hx ⟨c :: t, ht⟩, ?_⟩
        rw [← hu]
        exact isWordChar_keyword m c (ht ▸ by simp)
    simp [hshort, hlong]

theorem trimStart_blank {a : List Char} (h : a.all isBlank = true) (b : List Char) :
    trimStart (a ++ b) = trimStart b := by
  rw [List.all_eq_true] at h
  exact List.dropWhile_append_of_pos h

theorem trimStart_solid {cs : List Char} (h : ∀ c ∈ cs.head?, isBlank c = false) : trimStart cs = cs := by
  cases cs with
  | nil => rfl
  | cons c cs => exact List.dropWhile_cons_of_neg (by simp [h c rfl])

/-- Blanks before a modifier do not matter. -/
theorem take?_blank {a : List Char} (h : a.all isBlank = true) (b : List Char) :
    Modifier.take? (a ++ b) = Modifier.take? b := by
  rw [Modifier.take?, Modifier.take?, trimStart_blank h]

/-- A text that is not blank starts with a modifier, or with none, whatever follows it. -/
theorem take?_append {a b : List Char} (ha : ¬a.all isBlank = true) (h : CleanCut a b) :
    Modifier.take? (a ++ b) = (Modifier.take? a).map fun (m, r) => (m, r ++ b) := by
  have hne : trimStart a ≠ [] := by
    rw [trimStart, Ne, List.dropWhile_eq_nil_iff, ← List.all_eq_true]
    exact ha
  have htrim : trimStart (a ++ b) = trimStart a ++ b := by
    rw [trimStart, List.dropWhile_append, if_neg (by simpa [trimStart] using hne)]
    rfl
  have hcut : CleanCut (trimStart a) b := h.suffix (List.dropWhile_suffix _)
  have hstrip : (fun m : Modifier => (m.strip? (trimStart a ++ b)).map fun r => (m, r))
      = fun m => ((m.strip? (trimStart a)).map fun r => (m, r)).map fun (m, r) => (m, r ++ b) := by
    funext m
    rw [strip?_append m hne hcut, Option.map_map, Option.map_map]
    rfl
  rw [Modifier.take?, htrim, hstrip, Modifier.take?, List.map_findSome?]
  rfl

/-- A modifier at the start of a text is there whatever follows the text. -/
theorem take?_append_some {a b rest : List Char} {m : Modifier} (h : CleanCut a b)
    (ht : Modifier.take? a = some (m, rest)) : Modifier.take? (a ++ b) = some (m, rest ++ b) := by
  have hsolid : ¬a.all isBlank = true := by
    intro hblank
    have hnone : Modifier.take? [] = none := by decide
    have hsame := take?_blank hblank []
    rw [List.append_nil, ht, hnone] at hsame
    cases hsame
  rw [take?_append hsolid h, ht]
  rfl

theorem take?_suffix {m : Modifier} {cs rest : List Char} (h : Modifier.take? cs = some (m, rest)) :
    rest <:+ cs := by
  obtain ⟨m', -, hm⟩ := List.exists_of_findSome?_eq_some h
  obtain ⟨rest', hr, he⟩ := Option.map_eq_some_iff.mp hm
  cases he
  simp only [Modifier.strip?, Option.ite_none_right_eq_some, Option.some.injEq] at hr
  rw [← hr.2]
  exact (List.drop_suffix _ _).trans (List.dropWhile_suffix _)

theorem leadingModifiers_none {cs : List Char} (h : Modifier.take? cs = none) :
    leadingModifiers cs = ([], cs) := by
  rw [leadingModifiers]
  split
  · rfl
  · rename_i h'
    rw [h] at h'
    cases h'

theorem leadingModifiers_some {cs rest : List Char} {m : Modifier}
    (h : Modifier.take? cs = some (m, rest)) :
    leadingModifiers cs = (m :: (leadingModifiers rest).1, (leadingModifiers rest).2) := by
  rw [leadingModifiers]
  split
  · rename_i h'
    rw [h] at h'
    cases h'
  · rename_i h'
    rw [h] at h'
    cases h'
    rfl

/-- What the modifiers at the start of a text leave is its end. -/
theorem leadingModifiers_suffix (cs : List Char) : (leadingModifiers cs).2 <:+ cs := by
  induction h : cs.length using Nat.strongRecOn generalizing cs with
  | _ n ih =>
    cases ht : Modifier.take? cs with
    | none => simp only [leadingModifiers_none ht, List.suffix_refl]
    | some found =>
      obtain ⟨m, rest⟩ := found
      rw [leadingModifiers_some ht]
      exact (ih _ (h ▸ Modifier.length_take? ht) rest rfl).trans (take?_suffix ht)

/-- Blanks before the modifiers, or before the rest where there are none, do not matter. -/
theorem leadingModifiers_blank {a : List Char} (h : a.all isBlank = true) (b : List Char) :
    (leadingModifiers (a ++ b)).1 = (leadingModifiers b).1 ∧
      normaliseTypeChars (leadingModifiers (a ++ b)).2 = normaliseTypeChars (leadingModifiers b).2 := by
  cases ht : Modifier.take? b with
  | none =>
    rw [leadingModifiers_none ht, leadingModifiers_none ((take?_blank h b).trans ht)]
    exact ⟨rfl, normaliseTypeChars_blank h b⟩
  | some found =>
    obtain ⟨m, rest⟩ := found
    rw [leadingModifiers_some ht, leadingModifiers_some ((take?_blank h b).trans ht)]
    exact ⟨rfl, rfl⟩

/-- Behind a text of modifiers and blanks the modifiers go on. -/
theorem leadingModifiers_append_blank {a b : List Char} (h : CleanCut a b)
    (ha : (leadingModifiers a).2.all isBlank = true) :
    (leadingModifiers (a ++ b)).1 = (leadingModifiers a).1 ++ (leadingModifiers b).1 ∧
      normaliseTypeChars (leadingModifiers (a ++ b)).2 = normaliseTypeChars (leadingModifiers b).2 := by
  induction hlen : a.length using Nat.strongRecOn generalizing a with
  | _ n ih =>
    cases ht : Modifier.take? a with
    | none =>
      rw [leadingModifiers_none ht] at ha ⊢
      exact leadingModifiers_blank ha b
    | some found =>
      obtain ⟨m, rest⟩ := found
      rw [leadingModifiers_some ht] at ha
      rw [leadingModifiers_some (take?_append_some h ht), leadingModifiers_some ht]
      obtain ⟨hmods, htype⟩ := ih _ (hlen ▸ Modifier.length_take? ht) (h.suffix (take?_suffix ht)) ha rfl
      exact ⟨congrArg (m :: ·) hmods, htype⟩

/-- Behind a text that goes on after its modifiers none is read. -/
theorem leadingModifiers_append_solid {a b : List Char} (h : CleanCut a b)
    (ha : ¬(leadingModifiers a).2.all isBlank = true) :
    leadingModifiers (a ++ b) = ((leadingModifiers a).1, (leadingModifiers a).2 ++ b) := by
  induction hlen : a.length using Nat.strongRecOn generalizing a with
  | _ n ih =>
    cases ht : Modifier.take? a with
    | none =>
      rw [leadingModifiers_none ht] at ha ⊢
      have hap : Modifier.take? (a ++ b) = none := by
        rw [take?_append ha h, ht]
        rfl
      rw [leadingModifiers_none hap]
    | some found =>
      obtain ⟨m, rest⟩ := found
      rw [leadingModifiers_some ht] at ha
      rw [leadingModifiers_some (take?_append_some h ht), leadingModifiers_some ht,
        ih _ (hlen ▸ Modifier.length_take? ht) (h.suffix (take?_suffix ht)) ha rfl]

end DartSurvey.Dart
