import DartSurvey.Dart.Comment
import DartSurvey.Proofs.Dart.Word

/-!
# Text outside comments

Comments are read from left to right, each as a whole. `Outside text rest` says that reading a text
that way one comes to its end part `rest`, which is then not reached from inside a comment.

- What is left of a text without its comments is the same from such a point on (`Outside.strip`), and
  every point of what is left comes from one (`outside_of_strip`).
- No word reaches across the end of a comment, so a word has the same neighbours in both, as far as
  these are word characters (`Outside.strip`, `startsWord_strip`).
-/

namespace DartSurvey.Dart

open Text

/-! ## One comment -/

/-- Whether a text starts with a comment. -/
def opensComment : List Char → Bool
  | '/' :: '/' :: _ => true
  | '/' :: '*' :: cs => (afterClose cs).isSome
  | _ => false

/-- A text is empty, starts with a comment of one of the two forms, or with another character. -/
theorem comment_cases (text : List Char) :
    text = [] ∨ (∃ cs, text = '/' :: '/' :: cs) ∨
      (∃ cs rest, text = '/' :: '*' :: cs ∧ afterClose cs = some rest) ∨
      ∃ c cs, text = c :: cs ∧ opensComment (c :: cs) = false := by
  cases text with
  | nil => exact Or.inl rfl
  | cons c cs =>
    refine Or.inr ?_
    by_cases hopen : opensComment (c :: cs) = false
    · exact Or.inr (Or.inr ⟨c, cs, rfl, hopen⟩)
    · unfold opensComment at hopen
      split at hopen
      · rename_i heq
        exact Or.inl ⟨_, heq⟩
      · rename_i cs' heq
        obtain ⟨rest, hrest⟩ := Option.isSome_iff_exists.mp (Bool.not_eq_false _ ▸ hopen)
        exact Or.inr (Or.inl ⟨cs', rest, heq, hrest⟩)
      · exact absurd rfl hopen

theorem strip_line (cs : List Char) :
    stripComments ('/' :: '/' :: cs) = ' ' :: stripComments (afterLine cs) := by
  rw [stripComments]

theorem strip_block {cs rest : List Char} (h : afterClose cs = some rest) :
    stripComments ('/' :: '*' :: cs) = ' ' :: stripComments rest := by
  rw [stripComments]
  split
  · rename_i h'
    rw [h] at h'
    cases h'
    rfl
  · rename_i h'
    rw [h] at h'
    cases h'

theorem strip_kept {c : Char} {cs : List Char} (h : opensComment (c :: cs) = false) :
    stripComments (c :: cs) = c :: stripComments cs := by
  rw [stripComments.eq_def]
  split
  · rename_i heq
    cases heq
  · rename_i heq
    cases heq
    cases h
  · rename_i cs' heq
    cases heq
    split
    · rename_i h'
      simp [opensComment, h'] at h
    · rfl
  · rename_i heq
    cases heq
    rfl

theorem opensComment_cons {c : Char} (h : c ≠ '/') (cs : List Char) : opensComment (c :: cs) = false := by
  unfold opensComment
  split
  · rename_i heq
    exact absurd (List.cons.inj heq).1 h
  · rename_i heq
    exact absurd (List.cons.inj heq).1 h
  · rfl

/-- A text without slashes has no comments. -/
theorem strip_append {cs : List Char} (h : '/' ∉ cs) (rest : List Char) :
    stripComments (cs ++ rest) = cs ++ stripComments rest := by
  induction cs with
  | nil => rfl
  | cons c cs ih =>
    rw [List.mem_cons, not_or] at h
    rw [List.cons_append, strip_kept (opensComment_cons (Ne.symm h.1) _), ih h.2, List.cons_append]

theorem strip_nil : stripComments [] = [] := by rw [stripComments]

theorem stripComments_eq_self {cs : List Char} (h : '/' ∉ cs) : stripComments cs = cs := by
  rw [← List.append_nil cs, strip_append h, strip_nil]

/-- A comment to the end of its line ends before a line feed, or with the text. -/
theorem afterLine_head (cs : List Char) : ∀ c ∈ (afterLine cs).head?, c = '\n' := by
  intro c hc
  have hnot := List.head?_dropWhile_not (· != '\n') cs
  change (cs.dropWhile (· != '\n')).head? = some c at hc
  rw [hc] at hnot
  simpa using hnot

/-- A text is the comment that it starts with, which ends with the first `*/`, and what follows. -/
theorem afterClose_suffix {cs rest : List Char} (h : afterClose cs = some rest) :
    ∃ body, cs = body ++ '*' :: '/' :: rest ∧ ¬['*', '/'] <:+: body := by
  fun_induction afterClose cs with
  | case1 => cases h
  | case2 cs =>
    cases h
    exact ⟨[], rfl, by simp⟩
  | case3 c cs hne ih =>
    obtain ⟨body, rfl, hbody⟩ := ih h
    refine ⟨c :: body, rfl, ?_⟩
    rw [List.infix_cons_iff, not_or]
    refine ⟨?_, hbody⟩
    rintro ⟨tail, htail⟩
    obtain ⟨rfl, rfl⟩ := List.cons.inj htail
    exact hne _ rfl rfl

/-! ## Reading a text comment by comment -/

/-- That reading a text from its start, each comment as a whole, one comes to an end part of it. -/
inductive Outside : List Char → List Char → Prop
  | here (text : List Char) : Outside text text
  | line {cs rest : List Char} (h : Outside (afterLine cs) rest) : Outside ('/' :: '/' :: cs) rest
  | block {cs cs' rest : List Char} (hclose : afterClose cs = some cs') (h : Outside cs' rest) :
      Outside ('/' :: '*' :: cs) rest
  | char {c : Char} {cs rest : List Char} (hopen : opensComment (c :: cs) = false) (h : Outside cs rest) :
      Outside (c :: cs) rest

/-- A text without slashes is read to its end. -/
theorem outside_append {cs : List Char} (h : '/' ∉ cs) (rest : List Char) : Outside (cs ++ rest) rest := by
  induction cs with
  | nil => exact .here rest
  | cons c cs ih =>
    rw [List.mem_cons, not_or] at h
    exact .char (opensComment_cons (Ne.symm h.1) _) (ih h.2)

theorem endsWord_append {b : List Char} (hb : b ≠ []) (a : List Char) : endsWord (a ++ b) = endsWord b := by
  rw [endsWord, endsWord, List.getLast?_append_of_ne_nil a hb]

/-- Two texts with the same last word go on to have the same last word. -/
theorem endsWord_congr {x y front left : List Char} (hnil : front = [] ↔ left = [])
    (hends : endsWord front = endsWord left) (hxy : front = [] → endsWord x = endsWord y) :
    endsWord (x ++ front) = endsWord (y ++ left) := by
  by_cases hfront : front = []
  · rw [hfront, hnil.mp hfront, List.append_nil, List.append_nil, hxy hfront]
  · rw [endsWord_append hfront, endsWord_append (fun hl => hfront (hnil.mpr hl)), hends]

/-- No word starts where a comment to the end of its line ends. -/
theorem not_startsWord_afterLine (cs : List Char) : startsWord (afterLine cs) = false := by
  have hhead := afterLine_head cs
  cases hline : afterLine cs with
  | nil => rfl
  | cons c rest =>
    rw [hline] at hhead
    rw [hhead c rfl]
    rfl

/-- Up to a point outside comments a text is left without its comments; a word at that point has a
word character before it in the text exactly if it has one in what is left. -/
theorem Outside.strip {text rest : List Char} (h : Outside text rest) :
    ∃ front left, text = front ++ rest ∧ stripComments text = left ++ stripComments rest ∧
      (front = [] ↔ left = []) ∧ (startsWord rest = true → endsWord front = endsWord left) := by
  induction h with
  | here text => exact ⟨[], [], rfl, rfl, Iff.rfl, fun _ => rfl⟩
  | @line cs rest h ih =>
    obtain ⟨front, left, hfront, hleft, hnil, hends⟩ := ih
    have hline : cs = cs.takeWhile (· != '\n') ++ (front ++ rest) := by
      rw [← hfront]
      exact (List.takeWhile_append_dropWhile).symm
    refine ⟨'/' :: '/' :: cs.takeWhile (· != '\n') ++ front, [' '] ++ left, ?_, ?_, by simp, ?_⟩
    · rw [List.append_assoc, List.cons_append, List.cons_append, ← hline]
    · rw [strip_line, hleft, List.singleton_append, List.cons_append]
    · intro hword
      refine endsWord_congr hnil (hends hword) fun hne => ?_
      rw [hne, List.nil_append] at hfront
      rw [← hfront, not_startsWord_afterLine] at hword
      cases hword
  | @block cs cs' rest hclose h ih =>
    obtain ⟨front, left, hfront, hleft, hnil, hends⟩ := ih
    obtain ⟨body, hbody, -⟩ := afterClose_suffix hclose
    refine ⟨'/' :: '*' :: body ++ ['*', '/'] ++ front, [' '] ++ left, ?_, ?_, by simp, ?_⟩
    · rw [hbody, hfront]
      simp
    · rw [strip_block hclose, hleft, List.singleton_append, List.cons_append]
    · intro hword
      refine endsWord_congr hnil (hends hword) fun _ => ?_
      rw [endsWord_append (List.cons_ne_nil _ _)]
      rfl
  | @char c cs rest hopen h ih =>
    obtain ⟨front, left, hfront, hleft, hnil, hends⟩ := ih
    refine ⟨[c] ++ front, [c] ++ left, ?_, ?_, by simp, ?_⟩
    · rw [hfront, List.singleton_append, List.cons_append]
    · rw [strip_kept hopen, hleft, List.singleton_append, List.cons_append]
    · intro hword
      exact endsWord_congr hnil (hends hword) fun _ => rfl

/-- Every point of what is left of a text comes from a point outside its comments. -/
theorem outside_of_strip {text left rest : List Char} (h : stripComments text = left ++ rest) :
    ∃ rest', Outside text rest' ∧ stripComments rest' = rest := by
  induction left generalizing text with
  | nil => exact ⟨text, .here text, h⟩
  | cons x left ih =>
    rcases comment_cases text with rfl | ⟨cs, rfl⟩ | ⟨cs, cs', rfl, hclose⟩ | ⟨c, cs, rfl, hopen⟩
    · rw [strip_nil] at h
      cases h
    · rw [strip_line] at h
      obtain ⟨rest', houtside, hrest⟩ := ih (List.cons.inj h).2
      exact ⟨rest', .line houtside, hrest⟩
    · rw [strip_block hclose] at h
      obtain ⟨rest', houtside, hrest⟩ := ih (List.cons.inj h).2
      exact ⟨rest', .block hclose houtside, hrest⟩
    · rw [strip_kept hopen] at h
      obtain ⟨rest', houtside, hrest⟩ := ih (List.cons.inj h).2
      exact ⟨rest', .char hopen houtside, hrest⟩

/-- What is left of a text starts with a word where the text does. -/
theorem startsWord_strip (cs : List Char) : startsWord (stripComments cs) = startsWord cs := by
  rcases comment_cases cs with rfl | ⟨cs, rfl⟩ | ⟨cs, cs', rfl, hclose⟩ | ⟨c, cs, rfl, hopen⟩
  · rw [strip_nil]
  · rw [strip_line]
    rfl
  · rw [strip_block hclose]
    rfl
  · rw [strip_kept hopen]
    rfl

/-- Characters other than blanks that are left at the start of a text stand there in the text. -/
theorem eq_append_of_strip {word text rest : List Char} (hword : ' ' ∉ word)
    (h : stripComments text = word ++ rest) : ∃ back, text = word ++ back ∧ stripComments back = rest := by
  induction word generalizing text with
  | nil => exact ⟨text, rfl, h⟩
  | cons x word ih =>
    rw [List.mem_cons, not_or] at hword
    rcases comment_cases text with rfl | ⟨cs, rfl⟩ | ⟨cs, cs', rfl, hclose⟩ | ⟨c, cs, rfl, hopen⟩
    · rw [strip_nil] at h
      cases h
    · rw [strip_line] at h
      exact absurd (List.cons.inj h).1 hword.1
    · rw [strip_block hclose] at h
      exact absurd (List.cons.inj h).1 hword.1
    · rw [strip_kept hopen] at h
      obtain ⟨hc, hcs⟩ := List.cons.inj h
      obtain ⟨back, rfl, hback⟩ := ih hword.2 hcs
      exact ⟨back, by rw [hc, List.cons_append], hback⟩

/-- **Words outside comments.** A word is found in a text without its comments exactly if it stands in
the text outside of them, with no word character next to it. -/
theorem hasWord_strip_iff {word : List Char} (hne : word ≠ []) (hword : ∀ c ∈ word, isWordChar c = true)
    (text : List Char) :
    hasWord word false (stripComments text) = true ↔
      ∃ front back, text = front ++ (word ++ back) ∧ Outside text (word ++ back) ∧
        endsWord front = false ∧ startsWord back = false := by
  have hspace : ' ' ∉ word := fun hmem => absurd (hword _ hmem) (by decide)
  have hslash : '/' ∉ word := fun hmem => absurd (hword _ hmem) (by decide)
  have hstarts : ∀ back, startsWord (word ++ back) = true := by
    intro back
    obtain ⟨c, cs, rfl⟩ := List.exists_cons_of_ne_nil hne
    exact hword c List.mem_cons_self
  rw [hasWord_iff]
  constructor
  · rintro ⟨left, rest, htext, hleft, hrest⟩
    obtain ⟨rest', houtside, hrest'⟩ := outside_of_strip htext
    obtain ⟨back, rfl, hback⟩ := eq_append_of_strip hspace hrest'
    obtain ⟨front, left', hfront, hleft', -, hends⟩ := houtside.strip
    have hsame : left' = left := by
      rw [htext, hrest'] at hleft'
      exact (List.append_cancel_right hleft').symm
    refine ⟨front, back, hfront, houtside, ?_, ?_⟩
    · rw [hends (hstarts back), hsame, hleft]
    · rw [← startsWord_strip, hback, hrest]
  · rintro ⟨front, back, hfront, houtside, hends, hback⟩
    obtain ⟨front', left, hfront', hleft, -, hends'⟩ := houtside.strip
    have hsame : front' = front := List.append_cancel_right (hfront'.symm.trans hfront)
    refine ⟨left, stripComments back, ?_, ?_, ?_⟩
    · rw [hleft, strip_append hslash]
    · rw [← hends' (hstarts back), hsame, hends]
    · rw [startsWord_strip, hback]

end DartSurvey.Dart
