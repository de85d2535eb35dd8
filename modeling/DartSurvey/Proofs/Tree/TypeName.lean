import DartSurvey.Proofs.Dart.PrimitiveTypes
import DartSurvey.Proofs.Tree.DeferredImport
import DartSurvey.Proofs.Tree.FieldHead

/-!
# Names of types behind modifiers

The head of a field declaration often is modifiers and a name, which is its type. A keyword is taken
off where no word character follows it. But the characters of identifiers are not those of words: a
dollar sign may stand in a name and ends a word.

- A name other than the keywords starts with the word of a keyword only if a dollar sign follows it
  (`IsNameHead.dollar_of_keyword`). Then the keyword is one more modifier and the rest of the name is
  the type (`IsNameHead.isHead_split`), else the name is (`IsNameHead.isHead`).
- `memberOf_typeName`: a name is reported as the type exactly if it does not start with a keyword and
  a dollar sign, and what is reported if it does.
-/

namespace DartSurvey.Tree

open Dart Text

/-! ## Identifiers -/

/-- An identifier: letters, digits, `_` and `$`, the first of which is no digit. -/
structure IsIdentifier (name : List Char) : Prop where
  chars : ∀ c ∈ name, isIdentifierChar c = true
  start : ∃ c ∈ name.head?, c.isDigit = false

theorem IsIdentifier.ne_nil {name : List Char} (h : IsIdentifier name) : name ≠ [] := by
  obtain ⟨c, hc, -⟩ := h.start
  rintro rfl
  cases hc

theorem not_isIdentifierChar_of_isBlank {c : Char} (h : isBlank c = true) : isIdentifierChar c = false := by
  rw [← Bool.not_eq_true, isIdentifierChar_iff]
  rintro (⟨hword, -⟩ | rfl)
  · rw [not_isWordChar_of_isBlank h] at hword
    cases hword
  · cases h

/-- Characters of identifiers are a token. -/
theorem isToken_identifierChars {t : List Char} (hne : t ≠ []) (h : ∀ c ∈ t, isIdentifierChar c = true) :
    IsToken t :=
  isToken_of_all hne h (fun _ => not_isIdentifierChar_of_isBlank) (by decide)

/-- A token with blanks behind it is written as the token. -/
theorem normaliseTypeChars_token {t gap : List Char} (ht : IsToken t) (hgap : gap.all isBlank = true) :
    normaliseTypeChars (t ++ gap) = t := by
  have hnext : nextSolid gap = none := by
    rw [nextSolid, List.find?_eq_none]
    intro c hc
    simpa using List.all_eq_true.mp hgap c hc
  have hlaid : laidOut gap = [] := by
    rw [← List.append_nil gap, laidOut_gap hgap]
    rfl
  rw [normaliseTypeChars_eq_laidOut, laidOut_token ht (by simp [hnext]), hlaid, List.append_nil]

/-! ## Heads with a name -/

/-- That a head is modifiers and a name with blanks behind each of them. The name is an identifier and
no keyword of a modifier. -/
structure IsNameHead (modifiers : List (Modifier × List Char)) (name gap : List Char) : Prop where
  gaps_blank : ∀ m ∈ modifiers, m.2.all isBlank = true
  gaps_ne_nil : ∀ m ∈ modifiers, m.2 ≠ []
  gap_blank : gap.all isBlank = true
  gap_ne_nil : gap ≠ []
  identifier : IsIdentifier name
  not_keyword : ∀ m : Modifier, name ≠ m.keyword.toList

section Head

variable {modifiers : List (Modifier × List Char)} {name gap : List Char}

/-- If the word at the start of a name is a keyword, a dollar sign follows it. -/
theorem IsNameHead.dollar_of_keyword (h : IsNameHead modifiers name gap) {m : Modifier}
    (hword : firstWord (name ++ gap) = m.keyword.toList) :
    ∃ rest, name = m.keyword.toList ++ '$' :: rest := by
  have hsplit : name = firstWord name ++ name.dropWhile isWordChar := (List.takeWhile_append_dropWhile).symm
  cases hrest : name.dropWhile isWordChar with
  | nil =>
    -- all of the name is one word, and the blanks end it
    have hall : ∀ c ∈ name, isWordChar c = true := List.dropWhile_eq_nil_iff.mp hrest
    have hgap : startsWord gap = false := by
      simpa using not_startsWord_of_isBlank h.gap_blank h.gap_ne_nil []
    rw [firstWord_append hall hgap] at hword
    exact absurd hword (h.not_keyword m)
  | cons c rest =>
    rw [hrest] at hsplit
    have hfirst : ∀ d ∈ firstWord name, isWordChar d = true := fun d hd => List.mem_takeWhile_imp hd
    have hstop : isWordChar c = false := by
      have hnot := List.head?_dropWhile_not isWordChar name
      rw [hrest] at hnot
      simpa using hnot
    have hends : ∀ more, startsWord (c :: more) = false := fun _ => hstop
    have hsame : firstWord (name ++ gap) = firstWord name := by
      rw [hsplit, List.append_assoc, List.cons_append, firstWord_append hfirst (hends _),
        firstWord_append hfirst (hends _)]
    have hident : isIdentifierChar c = true := by
      apply h.identifier.chars
      rw [hsplit]
      simp
    have hdollar : c = '$' := by
      rcases (isIdentifierChar_iff c).mp hident with ⟨hc, -⟩ | hc
      · rw [hstop] at hc
        cases hc
      · exact hc
    rw [← hsame, hword, hdollar] at hsplit
    exact ⟨rest, hsplit⟩

/-- A name that does not start with a keyword and a dollar sign is the type of the head. -/
theorem IsNameHead.isHead (h : IsNameHead modifiers name gap)
    (hwhole : ∀ (m : Modifier) rest, name ≠ m.keyword.toList ++ '$' :: rest) :
    IsHead [] modifiers (name ++ gap) where
  gap_blank := rfl
  gaps_blank := h.gaps_blank
  gaps_between := fun m hm => h.gaps_ne_nil m (List.dropLast_subset _ hm)
  gap_before_type := fun m hm _ => h.gaps_ne_nil m (List.mem_of_getLast? hm)
  type_solid := by
    intro c hc
    rw [List.head?_append_of_ne_nil _ h.identifier.ne_nil] at hc
    rw [← Bool.not_eq_true]
    intro hblank
    have hident := h.identifier.chars c (List.mem_of_mem_head? hc)
    rw [not_isIdentifierChar_of_isBlank hblank] at hident
    cases hident
  type_word := by
    intro m hword
    obtain ⟨rest, hrest⟩ := h.dollar_of_keyword hword
    exact hwhole m rest hrest

/-- A keyword with a dollar sign behind it is one more modifier. -/
theorem IsNameHead.isHead_split (h : IsNameHead modifiers name gap) (m : Modifier) (rest : List Char) :
    IsHead [] (modifiers ++ [(m, [])]) ('$' :: rest ++ gap) where
  gap_blank := rfl
  gaps_blank := by
    intro x hx
    rcases List.mem_append.mp hx with hx | hx
    · exact h.gaps_blank x hx
    · rw [List.mem_singleton.mp hx]
      rfl
  gaps_between := by
    intro x hx
    rw [List.dropLast_concat] at hx
    exact h.gaps_ne_nil x hx
  gap_before_type := by
    intro x _ hstarts
    cases hstarts
  type_solid := by
    rintro c ⟨⟩
    rfl
  type_word := by
    intro m' hword
    exact keyword_ne_nil m' hword.symm

theorem headText_split (m : Modifier) (rest : List Char) :
    headText [] modifiers (m.keyword.toList ++ '$' :: rest ++ gap)
      = headText [] (modifiers ++ [(m, [])]) ('$' :: rest ++ gap) := by
  simp [headText]

/-- There are no comments in modifiers and a name. -/
theorem IsNameHead.slash_not_mem (h : IsNameHead modifiers name gap) :
    '/' ∉ headText [] modifiers (name ++ gap) := by
  have hblank : ∀ cs : List Char, cs.all isBlank = true → '/' ∉ cs :=
    fun cs hcs hmem => absurd (List.all_eq_true.mp hcs _ hmem) (by decide)
  have hkeyword : ∀ m : Modifier, '/' ∉ m.keyword.toList := by
    intro m
    cases m <;> decide
  have hname : '/' ∉ name := fun hmem => absurd (h.identifier.chars _ hmem) (by decide)
  simp only [headText, List.nil_append, List.mem_append, List.mem_flatMap, not_or, not_exists, not_and]
  exact ⟨fun m hm => ⟨hkeyword m.1, hblank m.2 (h.gaps_blank m hm)⟩, hname, hblank gap h.gap_blank⟩

end Head

/-! ## Declarations -/

section Declaration

variable {source : List UInt8} {n list : Node} {before after : List Node}
  {modifiers : List (Modifier × List Char)} {name gap : List Char}

/-- A declaration with a token behind its modifiers is read as fields of the type that the token is. -/
theorem IsFieldNode.memberOf_token (h : IsFieldNode n before list after) {type : List Char}
    (hhead : IsHead [] modifiers (type ++ gap)) (htype : IsToken type) (hgap : gap.all isBlank = true)
    (hslash : '/' ∉ slice source n.start list.start)
    (htext : slice source n.start list.start = headText [] modifiers (type ++ gap)) :
    memberOf source n =
      .fields ((nameNodes list).map (Node.text source)) (some (String.ofList type))
        (decide (.final ∈ modifiers.map Prod.fst)) (decide (.static ∈ modifiers.map Prod.fst)) := by
  obtain ⟨hmods, hrest⟩ := leadingModifiers_headText hhead
  have hsome : typeOf? type = some (String.ofList type) := by
    rw [typeOf?, List.isEmpty_eq_false_iff.mpr htype.ne_nil]
    rfl
  rw [memberOf_declaration source h.declaration h.find?, h.headStart_eq, fieldsOf_eq,
    stripComments_eq_self hslash, htext, hmods, hrest, normaliseTypeChars_token htype hgap, hsome,
    declaredNames_eq, List.contains_eq_mem, List.contains_eq_mem]

/-- **Names of types behind modifiers.** If the text before the names of a declaration is modifiers and
the name of a type, with blanks behind each of them, then the declaration is read as fields of that
type, final and static as the modifiers say, exactly if the name does not start with a keyword and a
dollar sign. Of a name that does, the keyword is read as one more modifier and the rest, from the dollar
sign on, as the type. -/
theorem memberOf_typeName (h : IsFieldNode n before list after) (hhead : IsNameHead modifiers name gap)
    (htext : slice source n.start list.start = headText [] modifiers (name ++ gap)) :
    let names := (nameNodes list).map (Node.text source)
    let ms := modifiers.map Prod.fst
    (memberOf source n =
        .fields names (some (String.ofList name)) (decide (.final ∈ ms)) (decide (.static ∈ ms)) ↔
      ∀ (m : Modifier) rest, name ≠ m.keyword.toList ++ '$' :: rest) ∧
    ∀ (m : Modifier) rest, name = m.keyword.toList ++ '$' :: rest →
      memberOf source n = .fields names (some (String.ofList ('$' :: rest)))
        (decide (.final ∈ ms ++ [m])) (decide (.static ∈ ms ++ [m])) := by
  intro names ms
  have hslash : '/' ∉ slice source n.start list.start := by
    rw [htext]
    exact hhead.slash_not_mem
  have hsplit : ∀ (m : Modifier) rest, name = m.keyword.toList ++ '$' :: rest →
      memberOf source n = .fields names (some (String.ofList ('$' :: rest)))
        (decide (.final ∈ ms ++ [m])) (decide (.static ∈ ms ++ [m])) := by
    intro m rest hname
    have htoken : IsToken ('$' :: rest) :=
      isToken_identifierChars (List.cons_ne_nil _ _) fun c hc => hhead.identifier.chars c (by
        rw [hname]
        exact List.mem_append_right _ hc)
    rw [hname, headText_split] at htext
    have hmember := h.memberOf_token (hhead.isHead_split m rest) htoken hhead.gap_blank hslash htext
    rwa [List.map_append] at hmember
  refine ⟨⟨?_, ?_⟩, hsplit⟩
  · intro hread m rest hname
    rw [hsplit m rest hname, Member.fields.injEq] at hread
    have htype : '$' :: rest = name := String.ofList_injective (Option.some.inj hread.2.1)
    have hpos := List.length_pos_iff.mpr (keyword_ne_nil m)
    have hlen := congrArg List.length (htype.trans hname)
    rw [List.length_append] at hlen
    omega
  · intro hwhole
    exact h.memberOf_token (hhead.isHead hwhole)
      (isToken_identifierChars hhead.identifier.ne_nil hhead.identifier.chars) hhead.gap_blank hslash htext

end Declaration

/-! ## A name that is split -/

/-- The bytes of a declaration whose type starts with a keyword and a dollar sign. -/
def dollarSource : List UInt8 := Utf8.encode "static final$T x;".toList

/-- The names of that declaration. -/
def dollarNames : Node :=
  { kind := "initialized_identifier_list", start := 15, stop := 16
    children :=
      [{ kind := "initialized_identifier", start := 15, stop := 16
         children := [{ kind := "identifier", start := 15, stop := 16 }] }] }

/-- The modifier and the type of that declaration. -/
def dollarHead : List Node :=
  [{ kind := "static", start := 0, stop := 6, named := false },
    { kind := "type_identifier", start := 7, stop := 14 }]

/-- The declaration. -/
def dollarDeclaration : Node :=
  { kind := "declaration", start := 0, stop := 16, children := dollarHead ++ [dollarNames] }

theorem isFieldNode_dollar : IsFieldNode dollarDeclaration dollarHead dollarNames [] where
  declaration := rfl
  children := rfl
  names := rfl
  first := by decide
  plain := by decide

theorem isNameHead_dollar : IsNameHead [(.static, [' '])] "final$T".toList [' '] where
  gaps_blank := by decide
  gaps_ne_nil := by decide
  gap_blank := rfl
  gap_ne_nil := List.cons_ne_nil _ _
  identifier := ⟨List.all_eq_true.mp (by decide), ⟨'f', rfl, rfl⟩⟩
  not_keyword := by
    intro m
    cases m <;> decide

/-- A static field of the type `final$T` is read as a static and final field of the type `$T`. -/
theorem memberOf_typeName_dollar :
    IsFieldNode dollarDeclaration dollarHead dollarNames [] ∧
      IsNameHead [(.static, [' '])] "final$T".toList [' '] ∧
      memberOf dollarSource dollarDeclaration = .fields ["x"] (some "$T") true true := by
  have htext : slice dollarSource 0 15 = headText [] [(.static, [' '])] ("final$T".toList ++ [' ']) := by
    rw [slice, Utf8.decodeWhole_ascii (by decide)]
    decide
  have hnames : (nameNodes dollarNames).map (Node.text dollarSource) = ["x"] := by
    have hx : slice dollarSource 15 16 = ['x'] := by
      rw [slice, Utf8.decodeWhole_ascii (by decide)]
      decide
    simp [nameNodes, Node.namedChildren, Node.text, Node.chars, dollarNames, hx]
  have hmember := (memberOf_typeName isFieldNode_dollar isNameHead_dollar htext).2 .final ['T'] rfl
  rw [hnames] at hmember
  refine ⟨isFieldNode_dollar, isNameHead_dollar, hmember.trans ?_⟩
  decide

end DartSurvey.Tree
