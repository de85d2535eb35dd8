import DartSurvey.Proofs.Tree.InsertedComment

/-!
# Heads of field declarations

The head of a field declaration is a run of modifiers, with blanks around and between them, and the
text of a type (`headText`, `IsHead`).

- The modifiers of a head are read one by one, and what they leave is the type
  (`leadingModifiers_headText`).
- The names of a declaration are the texts of the identifiers in its list, and of the first identifier
  of each item with an initial value (`declaredNames_eq`).
- `memberOf_headText`: what a declaration without notes before its names is read as.
-/

namespace DartSurvey.Tree

open Dart Text

/-! ## Modifiers and type -/

/-- The text of a head: blanks, modifiers, each with the blanks behind it, and a type. -/
def headText (gap : List Char) (modifiers : List (Modifier × List Char)) (type : List Char) : List Char :=
  gap ++ (modifiers.flatMap (fun m => m.1.keyword.toList ++ m.2) ++ type)

/-- That modifiers and type are kept apart: there are blanks between two modifiers, and before a type
that starts with a word. The type starts with no blank and with no modifier. -/
structure IsHead (gap : List Char) (modifiers : List (Modifier × List Char)) (type : List Char) :
    Prop where
  gap_blank : gap.all isBlank = true
  gaps_blank : ∀ m ∈ modifiers, m.2.all isBlank = true
  gaps_between : ∀ m ∈ modifiers.dropLast, m.2 ≠ []
  gap_before_type : ∀ m ∈ modifiers.getLast?, startsWord type = true → m.2 ≠ []
  type_solid : ∀ c ∈ type.head?, isBlank c = false
  type_word : ∀ m : Modifier, type.takeWhile isWordChar ≠ m.keyword.toList

section Head

variable {gap : List Char} {m : Modifier × List Char} {modifiers : List (Modifier × List Char)}
  {type : List Char}

theorem headText_cons :
    headText gap (m :: modifiers) type = gap ++ (m.1.keyword.toList ++ headText m.2 modifiers type) := by
  simp [headText]

/-- What follows the first modifier is a head too. -/
theorem IsHead.tail (h : IsHead gap (m :: modifiers) type) : IsHead m.2 modifiers type where
  gap_blank := h.gaps_blank m List.mem_cons_self
  gaps_blank := fun x hx => h.gaps_blank x (List.mem_cons_of_mem m hx)
  gaps_between := by
    intro x hx
    cases modifiers with
    | nil => cases hx
    | cons m' ms => exact h.gaps_between x (List.mem_cons_of_mem m hx)
  gap_before_type := by
    intro x hx
    cases modifiers with
    | nil => cases hx
    | cons m' ms => exact h.gap_before_type x (by rwa [List.getLast?_cons_cons])
  type_solid := h.type_solid
  type_word := h.type_word

/-- No word goes on behind the first modifier. -/
theorem IsHead.not_startsWord (h : IsHead gap (m :: modifiers) type) :
    startsWord (headText m.2 modifiers type) = false := by
  by_cases hne : m.2 = []
  · cases modifiers with
    | nil =>
      have htype : startsWord type = false := by
        rw [← Bool.not_eq_true]
        exact fun hword => h.gap_before_type m rfl hword hne
      simpa [headText, hne] using htype
    | cons m' ms => exact absurd hne (h.gaps_between m List.mem_cons_self)
  · exact not_startsWord_of_isBlank h.tail.gap_blank hne _

/-- The modifiers of a head are read one by one, and what they leave is the type. -/
theorem leadingModifiers_headText (h : IsHead gap modifiers type) :
    (leadingModifiers (headText gap modifiers type)).1 = modifiers.map Prod.fst ∧
      normaliseTypeChars (leadingModifiers (headText gap modifiers type)).2 = normaliseTypeChars type := by
  induction modifiers generalizing gap with
  | nil =>
    have hnone : Modifier.take? (headText gap [] type) = none :=
      take?_eq_none h.gap_blank h.type_solid h.type_word
    rw [leadingModifiers_none hnone]
    exact ⟨rfl, normaliseTypeChars_blank h.gap_blank type⟩
  | cons m modifiers ih =>
    have hsome : Modifier.take? (headText gap (m :: modifiers) type)
        = some (m.1, headText m.2 modifiers type) := by
      rw [headText_cons]
      exact take?_keyword m.1 h.gap_blank h.not_startsWord
    obtain ⟨hmods, htype⟩ := ih h.tail
    rw [leadingModifiers_some hsome, hmods]
    exact ⟨rfl, htype⟩

end Head

/-- A type is reported unless nothing is left of it. -/
theorem typeOf?_normaliseTypeChars (type : List Char) :
    typeOf? (normaliseTypeChars type) =
      if normaliseType (String.ofList type) = "" then none
      else some (normaliseType (String.ofList type)) := by
  rw [normaliseType, String.toList_ofList, typeOf?]
  cases normaliseTypeChars type with
  | nil => rfl
  | cons c cs => simp

/-! ## Names -/

/-- The identifiers that a list of names declares: those in the list, and the first one of each item
with an initial value. -/
def nameNodes (list : Node) : List Node :=
  list.namedChildren.flatMap fun c =>
    if c.kind = "identifier" then [c]
    else if c.kind = "initialized_identifier" ∨ c.kind = "static_final_declaration" then
      (c.namedChildren.filter (·.kind = "identifier")).take 1
    else []

theorem declaredNames_eq (source : List UInt8) (list : Node) :
    declaredNames source list = (nameNodes list).map (Node.text source) := by
  rw [declaredNames, nameNodes, List.filterMap_eq_flatMap_toList, List.map_flatMap]
  congr 1
  funext c
  unfold declaredName?
  by_cases hid : c.kind = "identifier"
  · simp [hid]
  · by_cases hitem : c.kind = "initialized_identifier" ∨ c.kind = "static_final_declaration"
    · have hfirst : (c.namedChildren.filter (·.kind = "identifier")).take 1
          = (c.namedChild "identifier").toList := by
        rw [List.take_one, List.head?_filter]
        rfl
      rw [if_neg (by simpa using hid), if_pos (by simpa using hitem), if_neg hid, if_pos hitem, hfirst]
      cases c.namedChild "identifier" <;> rfl
    · rw [if_neg (by simpa using hid), if_neg (by simpa using hitem), if_neg hid, if_neg hitem]
      rfl

/-! ## Declarations -/

/-- A declaration with a list of names, and with neither an annotation nor a comment among the
children that come before the list in the order of the children and in the source. -/
structure IsFieldNode (n : Node) (before : List Node) (list : Node) (after : List Node) : Prop where
  declaration : n.kind = "declaration"
  children : n.children = before ++ list :: after
  names : (list.named && isNameList list.kind) = true
  first : ∀ c ∈ before, (c.named && isNameList c.kind) = false
  plain : ∀ c ∈ before, c.start < list.start → isNonCode c.kind = false

section Declaration

variable {n list : Node} {before after : List Node}

theorem IsFieldNode.find? (h : IsFieldNode n before list after) :
    n.children.find? (fun c => c.named && isNameList c.kind) = some list := by
  have hbefore : before.find? (fun c => c.named && isNameList c.kind) = none := by
    rw [List.find?_eq_none]
    intro c hc
    rw [h.first c hc]
    exact Bool.false_ne_true
  have hlist : (list :: after).find? (fun c => c.named && isNameList c.kind) = some list :=
    List.find?_cons_of_pos h.names
  rw [h.children, List.find?_append, hbefore, hlist]
  rfl

/-- Without notes the head starts where the declaration does. -/
theorem IsFieldNode.headStart_eq (h : IsFieldNode n before list after) :
    headStart n.start list.start n.children = n.start := by
  have hnotes : notesBefore list.start n.children = [] := by
    rw [notesBefore, List.filter_eq_nil_iff]
    intro c hc
    -- the list itself does not start before the list, so only children before it are looked at
    have hcut : (before ++ list :: after).takeWhile (fun c => c.start < list.start)
        = before.takeWhile fun c => c.start < list.start := by
      rw [List.takeWhile_append]
      split
      · rename_i hall
        simp [(List.takeWhile_prefix _).eq_of_length hall]
      · rfl
    rw [h.children, hcut] at hc
    have hlt : c.start < list.start := by simpa using List.mem_takeWhile_imp hc
    rw [h.plain c ((List.takeWhile_prefix _).subset hc) hlt]
    exact Bool.false_ne_true
  rw [Tree.headStart_eq, hnotes]
  rfl

/-- **The head of a field declaration is read exactly.** If the text before the names of a declaration,
without its comments, is a head, then the declaration is read as fields: final and static as the
modifiers say, of the type that follows them, and with the names that the list declares. -/
theorem memberOf_headText {source : List UInt8} {gap : List Char}
    {modifiers : List (Modifier × List Char)} {type : List Char} (h : IsFieldNode n before list after)
    (hhead : IsHead gap modifiers type)
    (htext : stripComments (slice source n.start list.start) = headText gap modifiers type) :
    memberOf source n =
      .fields ((nameNodes list).map (Node.text source))
        (if normaliseType (String.ofList type) = "" then none else some (normaliseType (String.ofList type)))
        (decide (.final ∈ modifiers.map Prod.fst)) (decide (.static ∈ modifiers.map Prod.fst)) := by
  obtain ⟨hmods, htype⟩ := leadingModifiers_headText hhead
  rw [memberOf_declaration source h.declaration h.find?, h.headStart_eq, fieldsOf_eq, htext, hmods, htype,
    declaredNames_eq, typeOf?_normaliseTypeChars, List.contains_eq_mem, List.contains_eq_mem]

end Declaration

/-! ## A declaration with a comment in its type -/

/-- The bytes of a declaration. -/
def typedSource : List UInt8 := Utf8.encode "static late\tfinal Map</* k */String,int >? a, b = 1;".toList

/-- The names of that declaration. -/
def typedNames : Node :=
  { kind := "initialized_identifier_list", start := 43, stop := 51
    children :=
      [{ kind := "initialized_identifier", start := 43, stop := 44
         children := [{ kind := "identifier", start := 43, stop := 44 }] },
        { kind := ",", start := 44, stop := 45, named := false },
        { kind := "initialized_identifier", start := 46, stop := 51
          children := [{ kind := "identifier", start := 46, stop := 47 }] }] }

/-- The modifiers and the type of that declaration. -/
def typedHead : List Node :=
  [{ kind := "static", start := 0, stop := 6, named := false },
    { kind := "late", start := 7, stop := 11, named := false },
    { kind := "final_builtin", start := 12, stop := 17 },
    { kind := "type_identifier", start := 18, stop := 21 },
    { kind := "type_arguments", start := 21, stop := 41
      children := [{ kind := "comment", start := 22, stop := 29 }] },
    { kind := "nullable_type", start := 41, stop := 42 }]

/-- The declaration. -/
def typedDeclaration : Node :=
  { kind := "declaration", start := 0, stop := 51, children := typedHead ++ [typedNames] }

theorem isFieldNode_typed : IsFieldNode typedDeclaration typedHead typedNames [] where
  declaration := rfl
  children := rfl
  names := rfl
  first := by decide
  plain := by decide

def typedModifiers : List (Modifier × List Char) := [(.static, [' ']), (.late, ['\t']), (.final, [' '])]

theorem isHead_typed : IsHead [] typedModifiers "Map< String,int >? ".toList where
  gap_blank := rfl
  gaps_blank := by decide
  gaps_between := by decide
  gap_before_type := by decide
  type_solid := by
    rintro c hc
    cases hc
    decide
  type_word := by
    intro m
    cases m <;> decide

theorem stripComments_typed :
    stripComments (slice typedSource 0 43) = headText [] typedModifiers "Map< String,int >? ".toList := by
  have hslice : slice typedSource 0 43 = "static late\tfinal Map</* k */String,int >? ".toList := by
    rw [slice, Utf8.decodeWhole_ascii (by decide)]
    decide
  have hslash : '/' ∉ "static late\tfinal Map<".toList := by decide
  have hfront : stripComments "static late\tfinal Map</* k */String,int >? ".toList
      = "static late\tfinal Map<".toList ++ stripComments "/* k */String,int >? ".toList :=
    strip_append hslash _
  have hblock : stripComments "/* k */String,int >? ".toList
      = ' ' :: stripComments "String,int >? ".toList := strip_block rfl
  rw [hslice, hfront, hblock, stripComments_eq_self (by decide)]
  rfl

/-- Of a declaration with three modifiers and with a comment in its type, all is read. -/
theorem memberOf_headText_typed :
    IsFieldNode typedDeclaration typedHead typedNames [] ∧
      IsHead [] typedModifiers "Map< String,int >? ".toList ∧
      memberOf typedSource typedDeclaration
        = .fields ["a", "b"] (some "Map<String, int>?") true true := by
  have hnames : (nameNodes typedNames).map (Node.text typedSource) = ["a", "b"] := by
    have ha : slice typedSource 43 44 = ['a'] := by
      rw [slice, Utf8.decodeWhole_ascii rfl]
      decide
    have hb : slice typedSource 46 47 = ['b'] := by
      rw [slice, Utf8.decodeWhole_ascii rfl]
      decide
    simp [nameNodes, Node.namedChildren, Node.text, Node.chars, typedNames, ha, hb]
  have hmember := memberOf_headText isFieldNode_typed isHead_typed stripComments_typed
  rw [hnames] at hmember
  refine ⟨isFieldNode_typed, isHead_typed, hmember.trans ?_⟩
  decide

end DartSurvey.Tree
