import DartSurvey.Proofs.Dart.Comments
import DartSurvey.Proofs.Tree.Insertion
import DartSurvey.Report.Extract

/-!
# Comments inside a declaration

The head of a field declaration is read from behind the last annotation or comment among its
children. So a comment between two of the children takes from the head all that stands before it,
modifiers and type.

- The first part of a head can be left out exactly if it holds nothing but modifiers, of which
  `final` and `static` stand behind the cut again (`fieldsOf_append_eq_iff`).
- The head starts behind the last of the notes before the names (`headStart_eq`), which gives the
  member without an inserted comment and with it (`InsertionPoint.memberOf_eq`,
  `InsertionPoint.memberOf_withComment`).
- `memberOf_withComment_eq_iff`: exactly when the comment changes nothing, and what it leaves of the
  member if it does. A static field can become one of the instance (`static_field_behind_comment`).
-/

namespace DartSurvey.Tree

open Dart Text

/-! ## Heads -/

/-- That a text holds nothing but modifiers, and that those of them that are reported stand at the
start of the next text too. -/
def Restated (a b : List Char) : Prop :=
  (leadingModifiers a).2.all isBlank = true ∧
    ∀ m ∈ (leadingModifiers a).1, m = .final ∨ m = .static → m ∈ (leadingModifiers b).1

/-- A point between two texts that neither a comment nor a word reaches across. -/
structure BetweenTokens (a b : List Char) : Prop where
  comments : stripComments (a ++ b) = stripComments a ++ stripComments b
  words : CleanCut (stripComments a) (stripComments b)

/-- The type of a declaration, if the text of one is left. -/
def typeOf? (type : List Char) : Option String := if type.isEmpty then none else some (String.ofList type)

theorem typeOf?_inj {x y : List Char} : typeOf? x = typeOf? y ↔ x = y := by
  constructor
  · intro h
    cases x with
    | nil =>
      cases y with
      | nil => rfl
      | cons d y => simp [typeOf?] at h
    | cons c x =>
      cases y with
      | nil => simp [typeOf?] at h
      | cons d y => exact String.ofList_injective (Option.some.inj h)
  · rintro rfl
    rfl

theorem fieldsOf_eq (head : List Char) (names : List String) :
    fieldsOf head names
      = .fields names (typeOf? (normaliseTypeChars (leadingModifiers (stripComments head)).2))
      ((leadingModifiers (stripComments head)).1.contains .final)
      ((leadingModifiers (stripComments head)).1.contains .static) := rfl

theorem contains_append_eq (m : Modifier) (ms ms' : List Modifier) :
    (ms ++ ms').contains m = ms'.contains m ↔ (m ∈ ms → m ∈ ms') := by
  by_cases h : m ∈ ms <;> by_cases h' : m ∈ ms' <;> simp [h, h']

/-- The first part of a head can be left out exactly if it holds nothing but modifiers that are
restated. -/
theorem fieldsOf_append_eq_iff {a b : List Char} (h : BetweenTokens a b) (names : List String) :
    fieldsOf (a ++ b) names = fieldsOf b names ↔ Restated (stripComments a) (stripComments b) := by
  rw [fieldsOf_eq, fieldsOf_eq, h.comments, Member.fields.injEq, typeOf?_inj]
  by_cases ha : (leadingModifiers (stripComments a)).2.all isBlank = true
  · obtain ⟨hmods, htype⟩ := leadingModifiers_append_blank h.words ha
    rw [hmods, htype, contains_append_eq, contains_append_eq]
    constructor
    · rintro ⟨-, -, hfinal, hstatic⟩
      refine ⟨ha, ?_⟩
      rintro m hm (rfl | rfl)
      · exact hfinal hm
      · exact hstatic hm
    · rintro ⟨-, hrest⟩
      exact ⟨rfl, rfl, fun hm => hrest _ hm (Or.inl rfl), fun hm => hrest _ hm (Or.inr rfl)⟩
  · -- what stands before the cut besides modifiers belongs to the type of the whole head only
    have hmore : normaliseTypeChars (leadingModifiers (stripComments a ++ stripComments b)).2
        ≠ normaliseTypeChars (leadingModifiers (stripComments b)).2 := by
      intro heq
      rw [leadingModifiers_append_solid h.words ha] at heq
      have hsolid := congrArg solid heq
      rw [solid_normaliseTypeChars, solid_normaliseTypeChars, solid_append] at hsolid
      have hle := ((leadingModifiers_suffix (stripComments b)).sublist.filter (fun c => !isBlank c)).length_le
      have hpos : 0 < (solid (leadingModifiers (stripComments a)).2).length := by
        rw [List.length_pos_iff, Ne, solid_eq_nil]
        exact ha
      have hlen := congrArg List.length hsolid
      rw [List.length_append] at hlen
      change (solid _).length ≤ (solid _).length at hle
      omega
    exact ⟨fun heq => absurd heq.2.1 hmore, fun hr => absurd hr.1 ha⟩

/-- Blanks before a head do not matter. -/
theorem fieldsOf_blank {gap : List Char} (h : gap.all isBlank = true) (b : List Char)
    (names : List String) :
    fieldsOf (gap ++ b) names = fieldsOf b names := by
  have hslash : '/' ∉ gap := fun hmem => absurd (List.all_eq_true.mp h _ hmem) (by decide)
  obtain ⟨hmods, htype⟩ := leadingModifiers_blank h (stripComments b)
  rw [fieldsOf_eq, fieldsOf_eq, strip_append hslash, hmods, htype]

/-! ## Where the head starts -/

/-- The annotations and comments among children that start before the names. -/
def notesBefore (namesStart : Nat) (children : List Node) : List Node :=
  (children.takeWhile fun c => c.start < namesStart).filter fun c => isNonCode c.kind

/-- The head starts behind the last annotation or comment. -/
theorem headStart_eq (start namesStart : Nat) (children : List Node) :
    headStart start namesStart children
      = ((notesBefore namesStart children).getLast?.map Node.stop).getD start := by
  fun_induction headStart start namesStart children with
  | case1 start => rfl
  | case2 start child rest h =>
    have hstop : ¬child.start < namesStart := by omega
    simp [notesBefore, hstop]
  | case3 start child rest h ih =>
    have hgo : child.start < namesStart := by omega
    rw [ih]
    by_cases hn : isNonCode child.kind = true
    · have hnotes : notesBefore namesStart (child :: rest) = child :: notesBefore namesStart rest := by
        simp [notesBefore, hgo, hn]
      rw [hnotes, if_pos hn, List.getLast?_cons]
      cases (notesBefore namesStart rest).getLast? <;> rfl
    · have hnotes : notesBefore namesStart (child :: rest) = notesBefore namesStart rest := by
        simp [notesBefore, hgo, hn]
      rw [hnotes, if_neg hn]

theorem notesBefore_append {namesStart : Nat} {left : List Node} (h : ∀ c ∈ left, c.start < namesStart)
    (right : List Node) :
    notesBefore namesStart (left ++ right)
      = notesBefore namesStart left ++ notesBefore namesStart right := by
  have hleft : ∀ c ∈ left, decide (c.start < namesStart) = true := fun c hc => decide_eq_true (h c hc)
  rw [notesBefore, notesBefore, notesBefore, List.takeWhile_append_of_pos hleft, List.filter_append,
    List.takeWhile_eq_self_iff.mpr hleft]

theorem notesBefore_shift (namesStart k : Nat) (children : List Node) :
    notesBefore (namesStart + k) (children.map (Node.shift k))
      = (notesBefore namesStart children).map (Node.shift k) := by
  simp [notesBefore, List.takeWhile_map, List.filter_map, Function.comp_def]

/-- Behind children that start before the names, the head starts behind the last note that follows,
if any does. -/
theorem headStart_append {namesStart : Nat} {left : List Node} (h : ∀ c ∈ left, c.start < namesStart)
    (start : Nat) (right : List Node) :
    headStart start namesStart (left ++ right) =
      ((notesBefore namesStart right).getLast?.map Node.stop).getD (headStart start namesStart left) := by
  rw [headStart_eq, headStart_eq, notesBefore_append h, List.getLast?_append]
  cases (notesBefore namesStart right).getLast? <;> rfl

theorem headStart_le {start namesStart p : Nat} {left : List Node} (hs : start ≤ p)
    (h : ∀ c ∈ left, c.stop ≤ p) :
    headStart start namesStart left ≤ p := by
  fun_induction headStart start namesStart left with
  | case1 start => exact hs
  | case2 start child rest _ => exact hs
  | case3 start child rest _ ih =>
    refine ih ?_ fun c hc => h c (List.mem_cons_of_mem child hc)
    split
    · exact h child List.mem_cons_self
    · exact hs

/-! ## A comment between two children -/

/-- A point between two children of a declaration, before its names, at an offset between two
tokens. -/
structure InsertionPoint (source : List UInt8) (n : Node) (left right : List Node) (list : Node)
    (p : Nat) : Prop where
  declaration : n.kind = "declaration"
  children : n.children = left ++ right
  left_names : ∀ c ∈ left, (c.named && isNameList c.kind) = false
  right_names : right.find? (fun c => c.named && isNameList c.kind) = some list
  start_le : n.start ≤ p
  left_before : ∀ c ∈ left, c.start < p ∧ c.stop ≤ p
  right_behind : ∀ c ∈ right, c.LiesFrom p
  within : p ≤ source.length
  clean : Utf8.StartsClean (source.drop p)
  tokens : BetweenTokens (slice source (headStart n.start list.start left) p) (slice source p list.start)

/-- A comment in bytes inserted at an offset, with nothing but blanks between it and the end of
those bytes. -/
structure InsertedComment (p : Nat) (new : List UInt8) (comment : Node) : Prop where
  kind : comment.kind = "comment" ∨ comment.kind = "documentation_comment"
  start_ge : p ≤ comment.start
  start_lt : comment.start < comment.stop
  stop_le : comment.stop ≤ p + new.length
  gap : ∀ b ∈ new.drop (comment.stop - p), b < 0x80 ∧ isBlank (Char.ofNat b.toNat) = true

/-- A declaration with a comment between two of its children. -/
def Node.withComment (n : Node) (left right : List Node) (comment : Node) (k : Nat) : Node :=
  { n with stop := n.stop + k, children := left ++ comment :: shiftAll k right }

/-- The member of a declaration with names. -/
theorem memberOf_declaration (source : List UInt8) {n list : Node} (hk : n.kind = "declaration")
    (hl : n.children.find? (fun c => c.named && isNameList c.kind) = some list) :
    memberOf source n =
      fieldsOf (slice source (headStart n.start list.start n.children) list.start)
        (declaredNames source list) := by
  have hfind : n.namedChildren.find? (isNameList ·.kind) = some list := by
    rw [Node.namedChildren, List.find?_filter]
    simpa only [Bool.decide_and, Bool.decide_eq_true] using hl
  rw [memberOf, hk, hfind]
  rfl

section Comment

variable {source new : List UInt8} {n list comment : Node} {left right : List Node} {p : Nat}

theorem InsertionPoint.lies_behind (h : InsertionPoint source n left right list p) : list.LiesFrom p :=
  h.right_behind list (List.mem_of_find?_eq_some h.right_names)

theorem Node.LiesFrom.le_start (h : n.LiesFrom p) : p ≤ n.start := by
  cases n
  exact h.1

theorem Node.LiesFrom.le_stop (h : n.LiesFrom p) : p ≤ n.stop := by
  cases n
  exact h.2.1

theorem InsertionPoint.left_lt (h : InsertionPoint source n left right list p) :
    ∀ c ∈ left, c.start < list.start :=
  fun c hc => Nat.lt_of_lt_of_le (h.left_before c hc).1 h.lies_behind.le_start

theorem InsertionPoint.find?_left (h : InsertionPoint source n left right list p) :
    left.find? (fun c => c.named && isNameList c.kind) = none := by
  rw [List.find?_eq_none]
  intro c hc
  rw [h.left_names c hc]
  exact Bool.false_ne_true

/-- The member without the comment: the whole head counts, from the last note on. -/
theorem InsertionPoint.memberOf_eq (h : InsertionPoint source n left right list p) :
    memberOf source n =
      fieldsOf (slice source (((notesBefore list.start right).getLast?.map Node.stop).getD
        (headStart n.start list.start left)) list.start) (declaredNames source list) := by
  have hfind : n.children.find? (fun c => c.named && isNameList c.kind) = some list := by
    rw [h.children, List.find?_append, h.find?_left, h.right_names]
    rfl
  rw [memberOf_declaration source h.declaration hfind, h.children, headStart_append h.left_lt]

/-- The member with the comment: of the head only what stands behind the comment counts, or behind a
later note. -/
theorem InsertionPoint.memberOf_withComment (h : InsertionPoint source n left right list p)
    (hc : InsertedComment p new comment) :
    memberOf (insertAt p new source) (n.withComment left right comment new.length) =
      fieldsOf (slice (insertAt p new source) (((notesBefore list.start right).getLast?.map fun c =>
        c.stop + new.length).getD comment.stop) (list.start + new.length)) (declaredNames source list) := by
  have hnote : isNonCode comment.kind = true ∧ isNameList comment.kind = false := by
    rcases hc.kind with hk | hk
    · rw [hk]
      decide
    · rw [hk]
      decide
  have hstart : comment.start < list.start + new.length := by
    have hle := h.lies_behind.le_start
    have hlt := hc.start_lt
    have hstop := hc.stop_le
    omega
  have hleft : ∀ c ∈ left, c.start < list.start + new.length :=
    fun c hc => Nat.lt_of_lt_of_le (h.left_lt c hc) (Nat.le_add_right _ _)
  have hnotes : notesBefore (list.start + new.length) (comment :: right.map (Node.shift new.length))
      = comment :: (notesBefore list.start right).map (Node.shift new.length) := by
    rw [← notesBefore_shift]
    simp [notesBefore, hstart, hnote.1]
  have hfind : (n.withComment left right comment new.length).children.find?
      (fun c => c.named && isNameList c.kind) = some (list.shift new.length) := by
    have hright : (right.map (Node.shift new.length)).find? (fun c => c.named && isNameList c.kind)
        = some (list.shift new.length) := by
      rw [List.find?_map]
      simp only [Function.comp_def, shift_named, shift_kind, h.right_names, Option.map_some]
    simp only [Node.withComment, shiftAll_eq_map, List.find?_append, List.find?_cons, hnote.2,
      Bool.and_false, h.find?_left, hright, Option.none_or]
  have hkind : (n.withComment left right comment new.length).kind = "declaration" := h.declaration
  rw [memberOf_declaration _ hkind hfind, shift_declaredNames h.within new h.lies_behind, shift_start,
    Node.withComment, shiftAll_eq_map, headStart_append hleft, hnotes, List.getLast?_cons, List.getLast?_map]
  cases (notesBefore list.start right).getLast? with
  | none => rfl
  | some c => simp only [Option.map_some, Option.getD_some, shift_stop]

/-- What stands behind an inserted comment, up to the names: the blanks inserted with it, and what
stood there before. -/
theorem InsertionPoint.slice_comment (h : InsertionPoint source n left right list p)
    (hc : InsertedComment p new comment) :
    ∃ gap : List Char, gap.all isBlank = true ∧
      slice (insertAt p new source) comment.stop (list.start + new.length)
        = gap ++ slice source p list.start := by
  have hlist := h.lies_behind.le_start
  have hle := Nat.le_trans hc.start_ge (Nat.le_of_lt hc.start_lt)
  have hstop := hc.stop_le
  refine ⟨_, decodeWhole_blank hc.gap, ?_⟩
  have hdrop : (insertAt p new source).drop comment.stop
      = new.drop (comment.stop - p) ++ source.drop p := by
    have hlen : (source.take p).length = p := by rw [List.length_take, Nat.min_eq_left h.within]
    rw [insertAt, List.append_assoc, List.drop_append, hlen, List.drop_eq_nil_of_le (by omega),
      List.nil_append, List.drop_append_of_le_length (by omega)]
  have htake : ((insertAt p new source).drop comment.stop).take (list.start + new.length - comment.stop)
      = new.drop (comment.stop - p) ++ (source.drop p).take (list.start - p) := by
    rw [hdrop, List.take_append, List.take_of_length_le (by rw [List.length_drop]; omega),
      List.length_drop]
    congr 2
    omega
  rw [slice, htake, Utf8.decodeWhole_append _ (startsClean_take h.clean _)]
  rfl

/-- A note between the comment and the names hides the comment. -/
theorem InsertionPoint.withComment_of_note (h : InsertionPoint source n left right list p)
    (hc : InsertedComment p new comment) (hn : notesBefore list.start right ≠ []) :
    memberOf (insertAt p new source) (n.withComment left right comment new.length)
      = memberOf source n := by
  have hlast := List.getLast?_eq_some_getLast hn
  have hmem : (notesBefore list.start right).getLast hn ∈ right :=
    (List.takeWhile_sublist _).subset (List.mem_of_mem_filter (List.getLast_mem hn))
  rw [h.memberOf_withComment hc, h.memberOf_eq, hlast]
  simp only [Option.map_some, Option.getD_some]
  rw [slice_insertAt h.within (h.right_behind _ hmem).le_stop]

/-- Without such a note the comment hides what stands before it. -/
theorem InsertionPoint.withComment_of_no_note (h : InsertionPoint source n left right list p)
    (hc : InsertedComment p new comment) (hn : notesBefore list.start right = []) :
    memberOf (insertAt p new source) (n.withComment left right comment new.length)
      = fieldsOf (slice source p list.start) (declaredNames source list) := by
  obtain ⟨gap, hgap, hslice⟩ := h.slice_comment hc
  rw [h.memberOf_withComment hc, hn, List.getLast?_nil, Option.map_none, Option.getD_none, hslice,
    fieldsOf_blank hgap]

/-- Without a note the whole head counts where there is no comment. -/
theorem InsertionPoint.memberOf_of_no_note (h : InsertionPoint source n left right list p)
    (hn : notesBefore list.start right = []) :
    memberOf source n
      = fieldsOf (slice source (headStart n.start list.start left) p ++ slice source p list.start)
      (declaredNames source list) := by
  have hle : headStart n.start list.start left ≤ p :=
    headStart_le h.start_le fun c hc => (h.left_before c hc).2
  rw [h.memberOf_eq, hn, List.getLast?_nil, Option.map_none, Option.getD_none,
    slice_append h.clean hle h.lies_behind.le_start]

/-- **What a comment inside a declaration changes.** A comment between two children hides all that
stands before it in the head, unless an annotation or a comment that follows it before the names
hides that anyway. So the member is the same exactly if there is such a note, or if nothing but
modifiers stands before the comment in the head and `final` and `static` are not among them without
being repeated behind it. Then the record of the class is the same under every policy. -/
theorem memberOf_withComment_eq_iff (h : InsertionPoint source n left right list p)
    (hc : InsertedComment p new comment) :
    let member := memberOf (insertAt p new source) (n.withComment left right comment new.length)
    let hides := notesBefore list.start right ≠ []
    let before := stripComments (slice source (headStart n.start list.start left) p)
    let behind := stripComments (slice source p list.start)
    (hides → member = memberOf source n) ∧
      (¬hides → member = fieldsOf (slice source p list.start) (declaredNames source list)) ∧
      (member = memberOf source n ↔ hides ∨ Restated before behind) ∧
      ((hides ∨ Restated before behind) →
        ∀ (policy : Policy) (path : Value) (name : String) (others more : List Member),
          (Declaration.classOf name (others ++ member :: more)).record? policy path =
            (Declaration.classOf name (others ++ memberOf source n :: more)).record? policy path) := by
  intro member hides before behind
  have hiff : member = memberOf source n ↔ hides ∨ Restated before behind := by
    by_cases hn : notesBefore list.start right = []
    · have hmember : member = fieldsOf (slice source p list.start) (declaredNames source list) :=
        h.withComment_of_no_note hc hn
      rw [hmember, h.memberOf_of_no_note hn, eq_comm, fieldsOf_append_eq_iff h.tokens]
      exact ⟨Or.inr, fun hr => hr.resolve_left fun hh => hh hn⟩
    · exact ⟨fun _ => Or.inl hn, fun _ => h.withComment_of_note hc hn⟩
  refine ⟨h.withComment_of_note hc, fun hn => h.withComment_of_no_note hc (not_not.mp hn), hiff, ?_⟩
  intro hr policy path name others more
  rw [hiff.mpr hr]

end Comment

/-! ## A static field -/

/-- The bytes of a declaration of a static field. -/
def staticSource : List UInt8 := Utf8.encode "static int w;".toList

/-- The names of that declaration. -/
def staticNames : Node :=
  { kind := "initialized_identifier_list", start := 11, stop := 12
    children := [{ kind := "initialized_identifier", start := 11, stop := 12
                   children := [{ kind := "identifier", start := 11, stop := 12 }] }] }

/-- The modifier and the type of that declaration. -/
def staticHead : List Node :=
  [{ kind := "static", start := 0, stop := 6, named := false },
    { kind := "type_identifier", start := 7, stop := 10 }]

/-- The declaration. -/
def staticDeclaration : Node :=
  { kind := "declaration", start := 0, stop := 12, children := staticHead ++ [staticNames] }

def staticNew : List UInt8 := Utf8.encode " /* c */".toList
def staticComment : Node := { kind := "comment", start := 11, stop := 18 }

theorem leadingModifiers_static :
    leadingModifiers "static int ".toList = ([.static], " int ".toList) := by
  have hstatic : Modifier.take? "static int ".toList = some (.static, " int ".toList) := by decide
  have hint : Modifier.take? " int ".toList = none := by decide
  rw [leadingModifiers_some hstatic, leadingModifiers_none hint]

theorem slice_static_before :
    slice staticSource (headStart staticDeclaration.start staticNames.start staticHead) 10
      = "static int".toList := by
  have hstart : headStart staticDeclaration.start staticNames.start staticHead = 0 := by decide
  rw [hstart, slice, Utf8.decodeWhole_ascii rfl]
  decide

theorem slice_static_behind : slice staticSource 10 staticNames.start = [' '] := by
  rw [slice, Utf8.decodeWhole_ascii rfl]
  decide

theorem insertionPoint_static :
    InsertionPoint staticSource staticDeclaration staticHead [staticNames] staticNames 10 where
  declaration := rfl
  children := rfl
  left_names := by decide
  right_names := rfl
  start_le := by decide
  left_before := by decide
  right_behind := by
    intro c hc
    rw [List.mem_singleton.mp hc]
    simp [staticNames, Node.LiesFrom, LieFrom]
  within := by decide
  clean := by
    intro b hb
    have hdrop : staticSource.drop 10 = [0x20, 0x77, 0x3b] := by decide
    rw [hdrop] at hb
    cases hb
    rfl
  tokens := by
    rw [slice_static_before, slice_static_behind]
    have hblank : stripComments [' '] = [' '] := stripComments_eq_self (by decide)
    refine ⟨?_, ?_⟩
    · rw [hblank, stripComments_eq_self (by decide), stripComments_eq_self (by decide)]
    · rintro ⟨_, hstarts⟩
      rw [hblank] at hstarts
      exact absurd hstarts (by decide)

theorem insertedComment_static : InsertedComment 10 staticNew staticComment where
  kind := Or.inl rfl
  start_ge := by decide
  start_lt := by decide
  stop_le := by decide
  gap := by
    have hgap : staticNew.drop (staticComment.stop - 10) = [] := by decide
    rw [hgap]
    simp

theorem declaredNames_static : declaredNames staticSource staticNames = ["w"] := by
  have htext : slice staticSource 11 12 = ['w'] := by
    rw [slice, Utf8.decodeWhole_ascii rfl]
    decide
  simp [declaredNames, declaredName?, Node.namedChildren, Node.namedChild, Node.text, Node.chars,
    staticNames, htext]

/-- Behind a comment neither the modifiers nor the type of a declaration is seen: a static field
becomes one of the instance, without a type. -/
theorem static_field_behind_comment :
    (InsertionPoint staticSource staticDeclaration staticHead [staticNames] staticNames 10 ∧
        InsertedComment 10 staticNew staticComment) ∧
      memberOf staticSource staticDeclaration = .fields ["w"] (some "int") false true ∧
      memberOf (insertAt 10 staticNew staticSource)
          (staticDeclaration.withComment staticHead [staticNames] staticComment staticNew.length)
        = .fields ["w"] none false false := by
  have hnotes : notesBefore staticNames.start [staticNames] = [] := by
    simp [notesBefore, staticNames]
  have hhidden := (memberOf_withComment_eq_iff insertionPoint_static insertedComment_static).2.1
    (not_not.mpr hnotes)
  have hwhole := insertionPoint_static.memberOf_of_no_note hnotes
  rw [slice_static_before, slice_static_behind, declaredNames_static] at hwhole
  rw [slice_static_behind, declaredNames_static] at hhidden
  refine ⟨⟨insertionPoint_static, insertedComment_static⟩, ?_, ?_⟩
  · have hstrip : stripComments ("static int".toList ++ [' ']) = "static int ".toList :=
      stripComments_eq_self (by decide)
    rw [hwhole, fieldsOf_eq, hstrip, leadingModifiers_static]
    decide
  · have hstrip : stripComments [' '] = [' '] := stripComments_eq_self (by decide)
    have hnone : leadingModifiers [' '] = ([], [' ']) := leadingModifiers_none (by decide)
    rw [hhidden, fieldsOf_eq, hstrip, hnone]
    decide

end DartSurvey.Tree
