import DartSurvey.Proofs.Dart.Comments

/-!
# Removing all comments

- A comment is two slashes and the rest of their line, or what stands between `/*` and the first `*/`
  behind it (`IsComment`). Read from left to right, a text is cut into comments and characters at which
  no comment starts (`IsCut`), and removal writes a space for each of the comments (`IsCut.strip`).
- What stands together in the text that is left, and is no space, stands together in the text
  (`infix_of_strip`). So removal neither opens nor closes a comment: nowhere in what is left does a
  comment start (`opensComment_of_strip`).
- `stripComments_leaves_none`: no comment is left, a second removal changes nothing, and the characters
  outside comments stay in their order.
-/

namespace DartSurvey.Dart

/-! ## Comments -/

/-- That a text is a comment, if another text follows it. -/
inductive IsComment : List Char → List Char → Prop
  | line {cs rest : List Char} (hcs : '\n' ∉ cs) (hrest : ∀ c ∈ rest.head?, c = '\n') :
      IsComment ('/' :: '/' :: cs) rest
  | block {cs : List Char} (hcs : ¬['*', '/'] <:+: cs) (rest : List Char) :
      IsComment ('/' :: '*' :: (cs ++ ['*', '/'])) rest

theorem afterLine_append {cs rest : List Char} (hcs : '\n' ∉ cs) (hrest : ∀ c ∈ rest.head?, c = '\n') :
    afterLine (cs ++ rest) = rest := by
  have hline : ∀ c ∈ cs, (c != '\n') = true := by
    intro c hc
    rw [bne_iff_ne]
    rintro rfl
    exact hcs hc
  rw [afterLine, List.dropWhile_append_of_pos hline]
  cases rest with
  | nil => rfl
  | cons c rest =>
    rw [hrest c rfl]
    rfl

/-- The end of a block is found at the first `*/`. -/
theorem afterClose_append {cs : List Char} (h : ¬['*', '/'] <:+: cs) (rest : List Char) :
    afterClose (cs ++ ['*', '/'] ++ rest) = some rest := by
  rw [List.append_assoc]
  induction cs with
  | nil => rfl
  | cons c cs ih =>
    rw [List.infix_cons_iff, not_or] at h
    rw [List.cons_append, afterClose.eq_def]
    split
    · rename_i heq
      cases heq
    · -- a `*/` here would start with `c` and end in `cs`, or at the star behind it
      rename_i tail heq
      obtain ⟨rfl, htail⟩ := List.cons.inj heq
      cases cs with
      | nil => cases (List.cons.inj htail).1
      | cons d cs =>
        obtain ⟨rfl, -⟩ := List.cons.inj htail
        exact absurd ⟨cs, rfl⟩ h.1
    · rename_i heq
      obtain ⟨-, rfl⟩ := List.cons.inj heq
      exact ih h.2

theorem afterClose_eq_none_iff {cs : List Char} : afterClose cs = none ↔ ¬['*', '/'] <:+: cs := by
  fun_induction afterClose cs with
  | case1 => simp
  | case2 cs =>
    have hclosed : ['*', '/'] <:+: '*' :: '/' :: cs := ⟨[], cs, rfl⟩
    simp [hclosed]
  | case3 c cs hne ih =>
    have hhere : ¬['*', '/'] <+: c :: cs := by
      rintro ⟨rest, hrest⟩
      obtain ⟨rfl, rfl⟩ := List.cons.inj hrest
      exact hne rest rfl rfl
    rw [ih, List.infix_cons_iff, not_or]
    exact ⟨fun h => ⟨hhere, h⟩, fun h => h.2⟩

/-- A text starts with a comment where the reader of comments sees one. -/
theorem opensComment_iff {text : List Char} :
    opensComment text = true ↔ ∃ cs rest, text = cs ++ rest ∧ IsComment cs rest := by
  constructor
  · intro h
    rcases comment_cases text with rfl | ⟨cs, rfl⟩ | ⟨cs, rest, rfl, hclose⟩ | ⟨c, cs, rfl, hopen⟩
    · cases h
    · have hline : '\n' ∉ cs.takeWhile (· != '\n') := fun hmem => by simpa using List.mem_takeWhile_imp hmem
      refine ⟨'/' :: '/' :: cs.takeWhile (· != '\n'), afterLine cs, ?_, .line hline (afterLine_head cs)⟩
      rw [afterLine, List.cons_append, List.cons_append, List.takeWhile_append_dropWhile]
    · obtain ⟨body, rfl, hbody⟩ := afterClose_suffix hclose
      exact ⟨'/' :: '*' :: (body ++ ['*', '/']), rest, by simp, .block hbody rest⟩
    · rw [hopen] at h
      cases h
  · rintro ⟨cs, rest, rfl, hcomment⟩
    cases hcomment with
    | line hcs hrest => rfl
    | @block cs hcs rest =>
      change (afterClose (cs ++ ['*', '/'] ++ rest)).isSome = true
      rw [afterClose_append hcs]
      rfl

theorem IsComment.ne_nil {cs rest : List Char} (h : IsComment cs rest) : cs ≠ [] := by
  cases h <;> exact List.cons_ne_nil _ _

/-- Removal writes a space for a comment and goes on behind it. -/
theorem IsComment.strip {cs rest : List Char} (h : IsComment cs rest) :
    stripComments (cs ++ rest) = ' ' :: stripComments rest := by
  cases h with
  | line hcs hrest => rw [List.cons_append, List.cons_append, strip_line, afterLine_append hcs hrest]
  | block hcs rest => exact strip_block (afterClose_append hcs rest)

/-! ## A text cut into comments and other characters -/

/-- A part of a text: a comment, or a character outside comments. -/
inductive Piece where
  | kept (c : Char)
  | comment (cs : List Char)

/-- The characters of a part. -/
def Piece.chars : Piece → List Char
  | .kept c => [c]
  | .comment cs => cs

/-- What removal writes for a part. -/
def Piece.left : Piece → Char
  | .kept c => c
  | .comment _ => ' '

/-- That a text is cut into its parts from left to right: a comment wherever one starts. -/
inductive IsCut : List Char → List Piece → Prop
  | nil : IsCut [] []
  | kept {c : Char} {cs : List Char} {ps : List Piece}
      (hc : ∀ front back, c :: cs = front ++ back → ¬IsComment front back) (h : IsCut cs ps) :
      IsCut (c :: cs) (.kept c :: ps)
  | comment {cs rest : List Char} {ps : List Piece} (hcs : IsComment cs rest) (h : IsCut rest ps) :
      IsCut (cs ++ rest) (.comment cs :: ps)

theorem exists_isCut (text : List Char) : ∃ ps, IsCut text ps := by
  induction hlen : text.length using Nat.strongRecOn generalizing text with
  | _ n ih =>
    by_cases hopen : opensComment text = true
    · obtain ⟨cs, rest, rfl, hcomment⟩ := opensComment_iff.mp hopen
      have hpos := List.length_pos_iff.mpr hcomment.ne_nil
      rw [List.length_append] at hlen
      obtain ⟨ps, hps⟩ := ih rest.length (by omega) rest rfl
      exact ⟨.comment cs :: ps, .comment hcomment hps⟩
    · cases text with
      | nil => exact ⟨[], .nil⟩
      | cons c cs =>
        rw [List.length_cons] at hlen
        obtain ⟨ps, hps⟩ := ih cs.length (by omega) cs rfl
        refine ⟨.kept c :: ps, .kept ?_ hps⟩
        intro front back heq hcomment
        exact hopen (opensComment_iff.mpr ⟨front, back, heq, hcomment⟩)

theorem IsCut.chars {text : List Char} {ps : List Piece} (h : IsCut text ps) :
    text = ps.flatMap Piece.chars := by
  induction h with
  | nil => rfl
  | kept hc h ih => rw [List.flatMap_cons, ← ih, Piece.chars, List.singleton_append]
  | comment hcs h ih => rw [List.flatMap_cons, ← ih, Piece.chars]

/-- Of each part, removal leaves one character. -/
theorem IsCut.strip {text : List Char} {ps : List Piece} (h : IsCut text ps) :
    stripComments text = ps.map Piece.left := by
  induction h with
  | nil => exact strip_nil
  | @kept c cs ps hc h ih =>
    have hopen : opensComment (c :: cs) = false := by
      rw [← Bool.not_eq_true, opensComment_iff]
      rintro ⟨front, back, heq, hcomment⟩
      exact hc front back heq hcomment
    rw [strip_kept hopen, ih, List.map_cons, Piece.left]
  | comment hcs h ih => rw [hcs.strip, ih, List.map_cons, Piece.left]

/-! ## What is left -/

/-- What stands together in the text that is left, without a space, stands together in the text. -/
theorem infix_of_strip {word text : List Char} (hword : ' ' ∉ word) (h : word <:+: stripComments text) :
    word <:+: text := by
  obtain ⟨left, right, hleft⟩ := h
  rw [List.append_assoc] at hleft
  obtain ⟨rest, houtside, hrest⟩ := outside_of_strip hleft.symm
  obtain ⟨back, rfl, -⟩ := eq_append_of_strip hword hrest
  obtain ⟨front, -, rfl, -⟩ := houtside.strip
  exact ⟨front, back, by rw [List.append_assoc]⟩

/-- A block that is not closed in a text is not closed in what is left of it. -/
theorem afterClose_strip {text : List Char} (h : afterClose text = none) : afterClose (stripComments text) = none := by
  rw [afterClose_eq_none_iff] at h ⊢
  intro hclosed
  exact h (infix_of_strip (by decide) hclosed)

/-- Where a slash starts no comment, it starts none before what is left of the text behind it. -/
theorem opensComment_slash_strip {cs : List Char} (h : opensComment ('/' :: cs) = false) :
    opensComment ('/' :: stripComments cs) = false := by
  -- a comment right behind the slash would start with a second slash
  rcases comment_cases cs with rfl | ⟨ds, rfl⟩ | ⟨ds, rest, rfl, -⟩ | ⟨d, ds, rfl, hkept⟩
  · rw [strip_nil]
    rfl
  · cases h
  · cases h
  · rw [strip_kept hkept]
    by_cases hstar : d = '*'
    · subst hstar
      have hunclosed : afterClose ds = none := by simpa [opensComment] using h
      simp [opensComment, afterClose_strip hunclosed]
    · have hslash : d ≠ '/' := by
        rintro rfl
        cases h
      simp [opensComment, hstar, hslash]

/-- What is left of a text does not start with a comment. -/
theorem opensComment_strip (text : List Char) : opensComment (stripComments text) = false := by
  have hspace : ∀ cs, opensComment (' ' :: cs) = false := opensComment_cons (by decide)
  rcases comment_cases text with rfl | ⟨cs, rfl⟩ | ⟨cs, rest, rfl, hclose⟩ | ⟨c, cs, rfl, hopen⟩
  · rw [strip_nil]
    rfl
  · rw [strip_line]
    exact hspace _
  · rw [strip_block hclose]
    exact hspace _
  · rw [strip_kept hopen]
    by_cases hc : c = '/'
    · subst hc
      exact opensComment_slash_strip hopen
    · exact opensComment_cons hc _

/-- Nowhere in what is left of a text does a comment start. -/
theorem opensComment_of_strip {text left rest : List Char} (h : stripComments text = left ++ rest) :
    opensComment rest = false := by
  obtain ⟨rest', -, rfl⟩ := outside_of_strip h
  exact opensComment_strip rest'

/-- A text in which no comment starts is left as it is. -/
theorem strip_eq_self {text : List Char} (h : ∀ front back, text = front ++ back → opensComment back = false) :
    stripComments text = text := by
  induction text with
  | nil => exact strip_nil
  | cons c cs ih =>
    have htail : ∀ front back, cs = front ++ back → opensComment back = false := by
      rintro front back rfl
      exact h (c :: front) back rfl
    rw [strip_kept (h [] (c :: cs) rfl), ih htail]

/-- **Comment removal is complete and stable.** In what is left of a text there are no two slashes side
by side, and there is no `/*` with a `*/` behind it. A second removal changes nothing. The text is
cut into comments and other characters, and what is left is these characters in their order, with a
space for each of the comments. -/
theorem stripComments_leaves_none (text : List Char) :
    (¬∃ front back, stripComments text = front ++ '/' :: '/' :: back) ∧
      (¬∃ front mid back, stripComments text = front ++ '/' :: '*' :: (mid ++ '*' :: '/' :: back)) ∧
      stripComments (stripComments text) = stripComments text ∧
      ∃ ps, IsCut text ps ∧ text = ps.flatMap Piece.chars ∧ stripComments text = ps.map Piece.left := by
  refine ⟨?_, ?_, strip_eq_self fun front back => opensComment_of_strip, ?_⟩
  · rintro ⟨front, back, hleft⟩
    cases opensComment_of_strip hleft
  · rintro ⟨front, mid, back, hleft⟩
    have hopen : (afterClose (mid ++ '*' :: '/' :: back)).isSome = false := opensComment_of_strip hleft
    rw [Option.isSome_eq_false_iff, Option.isNone_iff_eq_none, afterClose_eq_none_iff] at hopen
    exact hopen ⟨mid, back, by simp⟩
  · obtain ⟨ps, hps⟩ := exists_isCut text
    exact ⟨ps, hps, hps.chars, hps.strip⟩

end DartSurvey.Dart
