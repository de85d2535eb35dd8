import DartSurvey.Proofs.Dart.Head

/-!
# The layout of written types

A type is normalised in four passes over its text. Here the passes are compared with one pass that
copies the characters other than blanks and decides behind each of them, by that character and what
follows it, whether a space is written (`laidOut`).

- A text in which every blank is one space behind a character is a list of characters, each with or
  without a space (`Mark`, `written`); `marks` reads a text that way, and reads back what was written
  (`marks_written`).
- A pass changes only which characters have a space behind them, and looks at the character and the
  next one for that (`retouch`). This is so for each of the four (`squeeze_eq_written`,
  `closeBefore_written`, `closeAfter_written`, `spaceCommas_written`), and two passes are one
  (`retouch_retouch`).
- `normaliseType_eq_laidOut`: the four passes are the one pass, no character other than a blank is
  lost, added or moved, and normalising twice is normalising once.
-/

namespace DartSurvey.Dart

open Text

/-! ## One pass -/

/-- The first character of a text that is not blank. -/
def nextSolid (cs : List Char) : Option Char := cs.find? fun c => !isBlank c

/-- Whether a space is written behind the character `c` of a type: always behind a comma, and else
where blanks and a next character follow, unless `c` is `<` or the next character is one of `<`, `>`,
`?` and the comma. -/
def layoutRule (c : Char) (next : Option Char) (blanks : Bool) : Bool :=
  c == ',' || (blanks && c != '<' && next.any fun d => !(['<', '>', '?', ','].contains d))

/-- The characters of a text that are not blank, with a space behind those that get one. -/
def laidOut : List Char → List Char
  | [] => []
  | c :: cs =>
    if isBlank c then laidOut cs
    else if layoutRule c (nextSolid cs) (cs.head?.any isBlank) then c :: ' ' :: laidOut cs
    else c :: laidOut cs

theorem nextSolid_cons_blank {c : Char} (h : isBlank c = true) (cs : List Char) :
    nextSolid (c :: cs) = nextSolid cs := by
  simp [nextSolid, h]

theorem nextSolid_cons_solid {c : Char} (h : isBlank c = false) (cs : List Char) :
    nextSolid (c :: cs) = some c := by
  simp [nextSolid, h]

theorem firstSolid_eq_nextSolid (cs : List Char) : firstSolid cs = nextSolid cs := by
  induction cs with
  | nil => rfl
  | cons c cs ih =>
    by_cases h : isBlank c = true
    · rw [nextSolid_cons_blank h, ← ih, firstSolid, firstSolid, trimStart, List.dropWhile_cons_of_pos h]
      rfl
    · rw [nextSolid_cons_solid (Bool.not_eq_true _ ▸ h), firstSolid, trimStart,
        List.dropWhile_cons_of_neg h]
      rfl

/-! ## Marked characters -/

/-- A character, and whether a space stands behind it. -/
abbrev Mark := Char × Bool

/-- The text of marked characters. -/
def written (ms : List Mark) : List Char := ms.flatMap fun m => if m.2 then [m.1, ' '] else [m.1]

/-- The characters of a text that are not blank, marked where a blank follows. -/
def marks : List Char → List Mark
  | [] => []
  | c :: cs => if isBlank c then marks cs else (c, cs.head?.any isBlank) :: marks cs

/-- That no character is blank. -/
def AllSolid (ms : List Mark) : Prop := ∀ m ∈ ms, isBlank m.1 = false

theorem written_cons (m : Mark) (ms : List Mark) :
    written (m :: ms) = m.1 :: ((if m.2 then [' '] else []) ++ written ms) := by
  obtain ⟨c, b⟩ := m
  cases b <;> rfl

theorem AllSolid.tail {m : Mark} {ms : List Mark} (h : AllSolid (m :: ms)) : AllSolid ms :=
  fun x hx => h x (List.mem_cons_of_mem m hx)

theorem allSolid_marks (cs : List Char) : AllSolid (marks cs) := by
  fun_induction marks cs with
  | case1 => simp [AllSolid]
  | case2 c cs h ih => exact ih
  | case3 c cs h ih =>
    intro m hm
    rcases List.mem_cons.mp hm with rfl | hm
    · simpa using h
    · exact ih m hm

theorem head?_marks (cs : List Char) : (marks cs).head?.map Prod.fst = nextSolid cs := by
  fun_induction marks cs with
  | case1 => rfl
  | case2 c cs h ih => rw [ih, nextSolid_cons_blank h]
  | case3 c cs h ih => simp [nextSolid_cons_solid (Bool.not_eq_true _ ▸ h)]

theorem nextSolid_written {ms : List Mark} (h : AllSolid ms) :
    nextSolid (written ms) = ms.head?.map Prod.fst := by
  cases ms with
  | nil => rfl
  | cons m ms =>
    rw [written_cons, nextSolid_cons_solid (h m List.mem_cons_self)]
    rfl

theorem marks_written {ms : List Mark} (h : AllSolid ms) : marks (written ms) = ms := by
  induction ms with
  | nil => rfl
  | cons m ms ih =>
    obtain ⟨c, b⟩ := m
    have hc : isBlank c = false := h (c, b) List.mem_cons_self
    have hhead : (written ms).head?.any isBlank = false := by
      cases ms with
      | nil => rfl
      | cons m ms =>
        rw [written_cons]
        exact h.tail m List.mem_cons_self
    rw [written_cons]
    cases b with
    | false => simp [marks, hc, hhead, ih h.tail]
    | true => simp [marks, hc, isBlank_space, ih h.tail]

/-! ## Passes over marked characters -/

/-- Marks every character anew, by the character, the next one and the old mark. -/
def retouch (rule : Char → Option Char → Bool → Bool) : List Mark → List Mark
  | [] => []
  | m :: ms => (m.1, rule m.1 (ms.head?.map Prod.fst) m.2) :: retouch rule ms

theorem head?_retouch (rule : Char → Option Char → Bool → Bool) (ms : List Mark) :
    (retouch rule ms).head?.map Prod.fst = ms.head?.map Prod.fst := by
  cases ms <;> rfl

theorem AllSolid.retouch {ms : List Mark} (h : AllSolid ms) (rule : Char → Option Char → Bool → Bool) :
    AllSolid (retouch rule ms) := by
  induction ms with
  | nil => exact h
  | cons m ms ih =>
    intro x hx
    rcases List.mem_cons.mp hx with rfl | hx
    · exact h m List.mem_cons_self
    · exact ih h.tail x hx

/-- Two passes are one. -/
theorem retouch_retouch (rule rule' : Char → Option Char → Bool → Bool) (ms : List Mark) :
    retouch rule (retouch rule' ms) = retouch (fun c next b => rule c next (rule' c next b)) ms := by
  induction ms with
  | nil => rfl
  | cons m ms ih => rw [retouch, retouch, retouch, ih, head?_retouch]

/-! ## The four passes -/

/-- The first pass: no space at the end. -/
def squeezeRule (_ : Char) (next : Option Char) (b : Bool) : Bool := b && next.isSome

theorem squeeze_cons_blank {c : Char} (h : isBlank c = true) (cs : List Char) :
    squeeze (c :: cs) = squeeze cs := by
  rw [squeeze, squeeze, words.eq_def]
  simp [h]

theorem words_ne_nil {c : Char} (h : isBlank c = false) (cs : List Char) : words (c :: cs) ≠ [] := by
  rw [words.eq_def]
  simp only [h, Bool.false_eq_true, ↓reduceIte]
  split
  · exact List.cons_ne_nil _ _
  · split
    · exact List.cons_ne_nil _ _
    · split <;> exact List.cons_ne_nil _ _

theorem words_eq_nil_iff (cs : List Char) : words cs = [] ↔ nextSolid cs = none := by
  induction cs with
  | nil => simp [words, nextSolid]
  | cons c cs ih =>
    by_cases h : isBlank c = true
    · rw [nextSolid_cons_blank h, ← ih, words.eq_def]
      simp [h]
    · have hc : isBlank c = false := Bool.not_eq_true _ ▸ h
      simp [words_ne_nil hc, nextSolid_cons_solid hc]

/-- A word goes on, or a space ends it if another word follows. -/
theorem squeeze_cons_solid {c : Char} (h : isBlank c = false) (cs : List Char) :
    squeeze (c :: cs) =
      c :: ((if cs.head?.any isBlank && (nextSolid cs).isSome then [' '] else []) ++ squeeze cs) := by
  cases cs with
  | nil => simp [squeeze, words, h]
  | cons d ds =>
    by_cases hd : isBlank d = true
    · have hwords : words (c :: d :: ds) = [c] :: words (d :: ds) := by
        rw [words.eq_def]
        simp [h, hd]
      rw [squeeze, squeeze, hwords]
      cases hw : words (d :: ds) with
      | nil =>
        have hnone := (words_eq_nil_iff _).mp hw
        simp [hnone]
      | cons w ws =>
        have hsome : (nextSolid (d :: ds)).isSome = true := by
          rw [Option.isSome_iff_ne_none, Ne, ← words_eq_nil_iff, hw]
          exact List.cons_ne_nil w ws
        rw [List.intersperse_cons_cons]
        simp [hd, hsome]
    · have hsolid : isBlank d = false := Bool.not_eq_true _ ▸ hd
      obtain ⟨w, ws, hw⟩ := List.exists_cons_of_ne_nil (words_ne_nil hsolid ds)
      have hwords : words (c :: d :: ds) = (c :: w) :: ws := by
        rw [words.eq_def]
        simp [h, hsolid, hw]
      rw [squeeze, squeeze, hwords, hw]
      cases ws <;> simp [hsolid]

theorem squeeze_eq_written (cs : List Char) : squeeze cs = written (retouch squeezeRule (marks cs)) := by
  fun_induction marks cs with
  | case1 => rfl
  | case2 c cs h ih => rw [squeeze_cons_blank h, ih]
  | case3 c cs h ih =>
    rw [squeeze_cons_solid (Bool.not_eq_true _ ▸ h), ih, retouch, written_cons, head?_marks]
    rfl

/-- The second pass: no space before `<`, `>` and `?`. -/
def closeBeforeRule (_ : Char) (next : Option Char) (b : Bool) : Bool := b && !next.any closesUp

/-- The third pass: no space behind `<`. -/
def closeAfterRule (c : Char) (_ : Option Char) (b : Bool) : Bool := b && c != '<'

/-- The fourth pass: a space behind a comma, and none before one. -/
def spaceCommasRule (c : Char) (next : Option Char) (b : Bool) : Bool :=
  c == ',' || (b && next != some ',')

theorem closeBefore_written {ms : List Mark} (h : AllSolid ms) :
    closeBefore (written ms) = written (retouch closeBeforeRule ms) := by
  induction ms with
  | nil => rfl
  | cons m ms ih =>
    obtain ⟨c, b⟩ := m
    have hc : isBlank c = false := h (c, b) List.mem_cons_self
    have hnext : firstSolid (written ms) = ms.head?.map Prod.fst := by
      rw [firstSolid_eq_nextSolid, nextSolid_written h.tail]
    rw [retouch, written_cons, written_cons, ← ih h.tail]
    cases b with
    | false => simp [closeBefore, closeBeforeRule, hc]
    | true =>
      by_cases hup : (ms.head?.map Prod.fst).any closesUp = true
      · simp [closeBefore, closeBeforeRule, hc, isBlank_space, hnext, hup]
      · simp [closeBefore, closeBeforeRule, hc, isBlank_space, hnext, hup]

theorem closeAfter_written {ms : List Mark} (h : AllSolid ms) (opened : Bool) :
    closeAfter opened (written ms) = written (retouch closeAfterRule ms) := by
  induction ms generalizing opened with
  | nil => rfl
  | cons m ms ih =>
    obtain ⟨c, b⟩ := m
    have hc : isBlank c = false := h (c, b) List.mem_cons_self
    rw [retouch, written_cons, written_cons]
    cases b with
    | false => simp [closeAfter, closeAfterRule, hc, ih h.tail]
    | true =>
      by_cases hopen : c = '<'
      · rw [hopen] at hc ⊢
        simp [closeAfter, closeAfterRule, hc, isBlank_space, ih h.tail]
      · simp [closeAfter, closeAfterRule, hc, hopen, ih h.tail]

theorem spaceCommas_written {ms : List Mark} (h : AllSolid ms) (after : Bool) :
    spaceCommas after (written ms) = written (retouch spaceCommasRule ms) := by
  induction ms generalizing after with
  | nil => rfl
  | cons m ms ih =>
    obtain ⟨c, b⟩ := m
    have hc : isBlank c = false := h (c, b) List.mem_cons_self
    have hnext : firstSolid (written ms) = ms.head?.map Prod.fst := by
      rw [firstSolid_eq_nextSolid, nextSolid_written h.tail]
    rw [retouch, written_cons, written_cons]
    by_cases hcomma : c = ','
    · rw [hcomma] at hc ⊢
      cases b <;> simp [spaceCommas, spaceCommasRule, hc, isBlank_space, ih h.tail]
    · cases b with
      | false => simp [spaceCommas, spaceCommasRule, hc, hcomma, ih h.tail]
      | true =>
        by_cases hbefore : ms.head?.map Prod.fst = some ','
        · simp [spaceCommas, spaceCommasRule, hc, hcomma, isBlank_space, hnext, hbefore, ih h.tail]
        · simp [spaceCommas, spaceCommasRule, hc, hcomma, isBlank_space, hnext, hbefore, ih h.tail]

/-! ## The four passes in one -/

theorem rules_eq_layoutRule (c : Char) (next : Option Char) (b : Bool) :
    spaceCommasRule c next (closeAfterRule c next (closeBeforeRule c next (squeezeRule c next b)))
      = layoutRule c next b := by
  cases next with
  | none => simp [spaceCommasRule, closeAfterRule, closeBeforeRule, squeezeRule, layoutRule]
  | some d =>
    simp only [spaceCommasRule, closeAfterRule, closeBeforeRule, squeezeRule, layoutRule, closesUp,
      Option.any_some, Option.isSome_some]
    grind

/-- The four passes decide behind each character by that character and the next. -/
theorem normaliseTypeChars_eq_written (cs : List Char) :
    normaliseTypeChars cs = written (retouch layoutRule (marks cs)) := by
  have hsolid := allSolid_marks cs
  rw [normaliseTypeChars, squeeze_eq_written, closeBefore_written (hsolid.retouch _),
    closeAfter_written ((hsolid.retouch _).retouch _),
    spaceCommas_written (((hsolid.retouch _).retouch _).retouch _), retouch_retouch, retouch_retouch,
    retouch_retouch]
  simp only [rules_eq_layoutRule]

theorem laidOut_eq_written (cs : List Char) : laidOut cs = written (retouch layoutRule (marks cs)) := by
  fun_induction laidOut cs with
  | case1 => rfl
  | case2 c cs h ih => rw [ih, marks, if_pos h]
  | case3 c cs h hspace ih =>
    rw [marks, if_neg h, retouch, written_cons, head?_marks, if_pos hspace, ih]
    rfl
  | case4 c cs h hspace ih =>
    rw [marks, if_neg h, retouch, written_cons, head?_marks, if_neg hspace, ih]
    rfl

theorem normaliseTypeChars_eq_laidOut (cs : List Char) : normaliseTypeChars cs = laidOut cs := by
  rw [normaliseTypeChars_eq_written, laidOut_eq_written]

/-- Layout is settled by one application. -/
theorem layoutRule_layoutRule (c : Char) (next : Option Char) (b : Bool) :
    layoutRule c next (layoutRule c next b) = layoutRule c next b := by
  unfold layoutRule
  cases c == ',' <;> cases b <;> cases c != '<' <;> simp

theorem laidOut_laidOut (cs : List Char) : laidOut (laidOut cs) = laidOut cs := by
  rw [laidOut_eq_written (laidOut cs), laidOut_eq_written cs,
    marks_written ((allSolid_marks cs).retouch _), retouch_retouch]
  simp only [layoutRule_layoutRule]

/-- **Types are laid out in one pass.** The four passes over the text of a type copy its characters
other than blanks and write one space behind each comma and wherever blanks stand between two
characters that keep them apart. So none of these characters is lost, added or moved, and a type that
is laid out stays as it is. -/
theorem normaliseType_eq_laidOut (s : String) :
    normaliseType s = String.ofList (laidOut s.toList) ∧
      solid (normaliseType s).toList = solid s.toList ∧
      normaliseType (normaliseType s) = normaliseType s := by
  refine ⟨congrArg String.ofList (normaliseTypeChars_eq_laidOut s.toList), ?_, ?_⟩
  · rw [normaliseType, String.toList_ofList, solid_normaliseTypeChars]
  · rw [normaliseType, normaliseType, String.toList_ofList, normaliseTypeChars_eq_laidOut,
      normaliseTypeChars_eq_laidOut, laidOut_laidOut]

example : laidOut " Map < String ,int\t? > ,".toList = "Map<String, int?>, ".toList := by decide

end DartSurvey.Dart
