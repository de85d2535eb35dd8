import DartSurvey.Tree.Convert
import Mathlib.Data.List.Basic

/-!
# Top-level nodes and the text around them

What a child of the root is converted to depends on the bytes of its own range alone: neither what
stands before it in the source nor what stands behind it matters.

- `Node.move`: a node with all offsets moved, forwards or backwards; what is looked up in a node is
  looked up in the moved node as well (`move_namedChildren`, `move_findFirst`).
- `Node.LiesIn a b`: a node, with all below it, lies in a range. Whatever is found below such a node
  lies there too (`LiesIn.child`, `LiesIn.findFirst`).
- `SameBytes`: two sources have the same bytes in a range and in the moved range. Then they have the
  same text between any two offsets of the range, also where these are reversed
  (`SameBytes.slice_eq`).
- So imports, members and classes are the same (`importOf_move`, `memberOf_move`, `classOf_move`),
  which gives `conversion_move`.
-/

namespace DartSurvey.Tree

/-! ## Moved nodes -/

/-- An offset moved by a distance, which may be negative. -/
def moved (d : Int) (x : Nat) : Nat := (x + d).toNat

mutual

/-- A node with all offsets in it moved. -/
def Node.move (d : Int) : Node → Node
  | ⟨kind, start, stop, named, missing, hasError, row, column, role, children⟩ =>
    ⟨kind, moved d start, moved d stop, named, missing, hasError, row, column, role, moveAll d children⟩

/-- Nodes with all offsets in them moved. -/
def moveAll (d : Int) : List Node → List Node
  | [] => []
  | n :: ns => n.move d :: moveAll d ns

end

theorem moveAll_eq_map (d : Int) (ns : List Node) : moveAll d ns = ns.map (Node.move d) := by
  induction ns with
  | nil => rfl
  | cons n ns ih => rw [moveAll, ih, List.map_cons]

section Move

variable (d : Int) (n : Node)

@[simp] theorem move_kind : (n.move d).kind = n.kind := by cases n; rfl

@[simp] theorem move_named : (n.move d).named = n.named := by cases n; rfl

@[simp] theorem move_role : (n.move d).role = n.role := by cases n; rfl

@[simp] theorem move_start : (n.move d).start = moved d n.start := by cases n; rfl

@[simp] theorem move_stop : (n.move d).stop = moved d n.stop := by cases n; rfl

@[simp] theorem move_children : (n.move d).children = n.children.map (Node.move d) := by
  cases n
  exact moveAll_eq_map d _

theorem move_namedChildren : (n.move d).namedChildren = n.namedChildren.map (Node.move d) := by
  simp [Node.namedChildren, List.filter_map, Function.comp_def]

theorem move_namedChild (kind : String) :
    (n.move d).namedChild kind = (n.namedChild kind).map (Node.move d) := by
  simp only [Node.namedChild, move_namedChildren, List.find?_map, Function.comp_def, move_kind]

theorem move_childInRole (role : String) :
    (n.move d).childInRole role = (n.childInRole role).map (Node.move d) := by
  simp only [Node.childInRole, move_children, List.find?_map, Function.comp_def, move_role]

end Move

mutual

/-- The first node of a kind is the same, moved. -/
theorem move_findFirst (d : Int) (kind : String) (n : Node) :
    (n.move d).findFirst kind = (n.findFirst kind).map (Node.move d) := by
  obtain ⟨k, start, stop, named, missing, hasError, row, column, role, children⟩ := n
  rw [Node.move, Node.findFirst, Node.findFirst]
  split
  · rfl
  · exact move_findFirstIn d kind children

theorem move_findFirstIn (d : Int) (kind : String) (ns : List Node) :
    Node.findFirstIn kind (moveAll d ns) = (Node.findFirstIn kind ns).map (Node.move d) := by
  cases ns with
  | nil => rfl
  | cons n ns =>
    rw [moveAll, Node.findFirstIn, Node.findFirstIn, move_findFirst d kind n, move_findFirstIn d kind ns]
    cases n.findFirst kind <;> rfl

end

/-! ## Nodes in a range -/

mutual

/-- That the range of every node below a node lies inside that of its parent. -/
def Node.Nested : Node → Prop
  | ⟨_, start, stop, _, _, _, _, _, _, children⟩ => start ≤ stop ∧ NestedIn start stop children

/-- That nodes lie inside a range, and the nodes below them inside their parents' ranges. -/
def NestedIn (a b : Nat) : List Node → Prop
  | [] => True
  | n :: ns => (a ≤ n.start ∧ n.stop ≤ b ∧ n.Nested) ∧ NestedIn a b ns

end

theorem nestedIn_iff {a b : Nat} {ns : List Node} :
    NestedIn a b ns ↔ ∀ n ∈ ns, a ≤ n.start ∧ n.stop ≤ b ∧ n.Nested := by
  induction ns with
  | nil => simp [NestedIn]
  | cons n ns ih => rw [NestedIn, ih, List.forall_mem_cons]

theorem Node.Nested.start_le {n : Node} (h : n.Nested) : n.start ≤ n.stop := by
  cases n
  exact h.1

theorem Node.Nested.children {n : Node} (h : n.Nested) :
    ∀ c ∈ n.children, n.start ≤ c.start ∧ c.stop ≤ n.stop ∧ c.Nested := by
  cases n
  exact nestedIn_iff.mp h.2

/-- That a node, with all below it, lies in a range. -/
structure Node.LiesIn (a b : Nat) (n : Node) : Prop where
  start_ge : a ≤ n.start
  stop_le : n.stop ≤ b
  nested : n.Nested

namespace Node.LiesIn

variable {a b : Nat} {n : Node}

theorem start_le (h : n.LiesIn a b) : n.start ≤ b := Nat.le_trans h.nested.start_le h.stop_le

theorem stop_ge (h : n.LiesIn a b) : a ≤ n.stop := Nat.le_trans h.start_ge h.nested.start_le

theorem child (h : n.LiesIn a b) {c : Node} (hc : c ∈ n.children) : c.LiesIn a b := by
  obtain ⟨hstart, hstop, hnested⟩ := h.nested.children c hc
  exact ⟨Nat.le_trans h.start_ge hstart, Nat.le_trans hstop h.stop_le, hnested⟩

theorem namedChildren (h : n.LiesIn a b) {c : Node} (hc : c ∈ n.namedChildren) : c.LiesIn a b :=
  h.child (List.mem_of_mem_filter hc)

theorem namedChild (h : n.LiesIn a b) {kind : String} {c : Node} (hc : n.namedChild kind = some c) :
    c.LiesIn a b :=
  h.namedChildren (List.mem_of_find?_eq_some hc)

theorem childInRole (h : n.LiesIn a b) {role : String} {c : Node} (hc : n.childInRole role = some c) :
    c.LiesIn a b :=
  h.child (List.mem_of_find?_eq_some hc)

end Node.LiesIn

mutual

/-- What is found below a node lies where the node does. -/
theorem Node.LiesIn.findFirst {a b : Nat} {kind : String} {n m : Node} (h : n.LiesIn a b)
    (hm : n.findFirst kind = some m) : m.LiesIn a b := by
  obtain ⟨k, start, stop, named, missing, hasError, row, column, role, children⟩ := n
  rw [Node.findFirst] at hm
  split at hm
  · cases hm
    exact h
  · exact findFirstIn_liesIn children (fun c hc => h.child hc) hm

theorem findFirstIn_liesIn {a b : Nat} {kind : String} {m : Node} (ns : List Node)
    (h : ∀ n ∈ ns, n.LiesIn a b) (hm : Node.findFirstIn kind ns = some m) : m.LiesIn a b := by
  cases ns with
  | nil => simp [Node.findFirstIn] at hm
  | cons n ns =>
    rw [Node.findFirstIn] at hm
    cases hn : n.findFirst kind with
    | some m' =>
      rw [hn, Option.some_or] at hm
      cases hm
      exact (h n List.mem_cons_self).findFirst hn
    | none =>
      rw [hn, Option.none_or] at hm
      exact findFirstIn_liesIn ns (fun c hc => h c (List.mem_cons_of_mem n hc)) hm

end

/-! ## Two sources with the same bytes in a range -/

/-- That a source has in the range from `a` to `b` the bytes that another has in the moved range. -/
structure SameBytes (s t : List UInt8) (d : Int) (a b : Nat) : Prop where
  start_moved : 0 ≤ a + d
  bytes : (s.drop a).take (b - a) = (t.drop (moved d a)).take (b - a)

namespace SameBytes

variable {s t : List UInt8} {d : Int} {a b : Nat} (h : SameBytes s t d a b)

include h

theorem moved_eq {x : Nat} (hx : a ≤ x) : moved d x = moved d a + (x - a) := by
  have ha := h.start_moved
  unfold moved
  omega

theorem moved_le_iff {x y : Nat} (hx : a ≤ x) (hy : a ≤ y) : moved d x ≤ moved d y ↔ x ≤ y := by
  rw [h.moved_eq hx, h.moved_eq hy]
  omega

/-- Between offsets of the range the two sources have the same text. -/
theorem slice_eq {x y : Nat} (hx : a ≤ x) (hy : a ≤ y) (hyb : y ≤ b) :
    slice t (moved d x) (moved d y) = slice s x y := by
  by_cases hxy : y ≤ x
  · -- reversed or empty: nothing is cut out of either source
    have hm := (h.moved_le_iff hy hx).mpr hxy
    rw [slice, slice, Nat.sub_eq_zero_of_le hm, Nat.sub_eq_zero_of_le hxy, List.take_zero, List.take_zero]
  · have hcut : ∀ (u : List UInt8) (p : Nat),
        (u.drop (p + (x - a))).take (y - x) = (((u.drop p).take (b - a)).drop (x - a)).take (y - x) := by
      intro u p
      rw [List.drop_take, List.take_take, List.drop_drop, Nat.min_eq_left (by omega)]
    have hs := hcut s a
    have ht := hcut t (moved d a)
    rw [Nat.add_sub_cancel' hx] at hs
    have hlen : moved d y - moved d x = y - x := by
      rw [h.moved_eq hx, h.moved_eq hy]
      omega
    rw [slice, slice, hlen, h.moved_eq hx, ht, hs, h.bytes]

variable {n : Node} (hn : n.LiesIn a b)

include hn

theorem text_move : (n.move d).text t = n.text s := by
  rw [Node.text, Node.text, Node.chars, Node.chars, move_start, move_stop,
    h.slice_eq hn.start_ge hn.stop_ge hn.stop_le]

end SameBytes

/-! ## Conversion -/

section Conversion

variable {s t : List UInt8} {d : Int} {a b : Nat} (h : SameBytes s t d a b)

include h

theorem text_move_option {o : Option Node} (ho : ∀ m, o = some m → m.LiesIn a b) :
    (o.map (Node.move d)).map (Node.text t) = o.map (Node.text s) := by
  cases o with
  | none => rfl
  | some m => exact congrArg some (h.text_move (ho m rfl))

theorem importOf_move {spec : Node} (hspec : spec.LiesIn a b) :
    importOf t (spec.move d) = importOf s spec := by
  have hname := fun m (hm : spec.namedChild "identifier" = some m) => hspec.namedChild hm
  have huri : ∀ m, (spec.findFirst "uri").or (spec.findFirst "string_literal") = some m →
      m.LiesIn a b := by
    intro m hm
    rcases Option.or_eq_some_iff.mp hm with hm | ⟨_, hm⟩
    · exact hspec.findFirst hm
    · exact hspec.findFirst hm
  have hor : ((spec.findFirst "uri").map (Node.move d)).or ((spec.findFirst "string_literal").map (Node.move d))
      = ((spec.findFirst "uri").or (spec.findFirst "string_literal")).map (Node.move d) := by
    cases spec.findFirst "uri" <;> rfl
  unfold importOf
  simp only [move_findFirst, move_namedChild, hor, text_move_option h hname]
  cases hu : (spec.findFirst "uri").or (spec.findFirst "string_literal") with
  | none => rfl
  | some u =>
    have hul := huri u hu
    simp only [Option.map_some, Option.bind_some, h.text_move hul, move_stop]
    -- from the end of the address to the name, or to the end of the specification
    cases hm : spec.namedChild "identifier" with
    | none => simp only [Option.map_none, h.slice_eq hul.stop_ge hspec.stop_ge hspec.stop_le]
    | some m =>
      have hml := hname m hm
      simp only [Option.map_some, move_start, h.slice_eq hul.stop_ge hml.start_ge hml.start_le]

theorem directiveOf?_move {c : Node} (hc : c.LiesIn a b) :
    directiveOf? t (c.move d) = directiveOf? s c := by
  unfold directiveOf?
  simp only [move_kind, move_findFirst, Option.isSome_map]
  cases hspec : c.findFirst "import_specification" with
  | none => rfl
  | some spec => simp only [Option.map_some, importOf_move h (hc.findFirst hspec)]

theorem declaredName?_move {n : Node} (hn : n.LiesIn a b) :
    declaredName? t (n.move d) = declaredName? s n := by
  unfold declaredName?
  rw [move_kind, h.text_move hn, move_namedChild, text_move_option h fun m hm => hn.namedChild hm]

theorem declaredNames_move {list : Node} (hl : list.LiesIn a b) :
    declaredNames t (list.move d) = declaredNames s list := by
  rw [declaredNames, declaredNames, move_namedChildren, List.filterMap_map]
  apply List.filterMap_congr
  intro n hn
  exact declaredName?_move h (hl.namedChildren hn)

/-- The head of a moved declaration starts where the head does, moved. -/
theorem headStart_move {start names : Nat} (hs : a ≤ start) (hnames : a ≤ names)
    {children : List Node} (hc : ∀ c ∈ children, c.LiesIn a b) :
    headStart (moved d start) (moved d names) (children.map (Node.move d))
        = moved d (headStart start names children) ∧
      a ≤ headStart start names children := by
  induction children generalizing start with
  | nil => exact ⟨rfl, hs⟩
  | cons c rest ih =>
    have hcl := hc c List.mem_cons_self
    simp only [List.map_cons, headStart, move_start, move_kind, move_stop,
      h.moved_le_iff hnames hcl.start_ge]
    have hrest := fun x hx => hc x (List.mem_cons_of_mem c hx)
    split
    · exact ⟨rfl, hs⟩
    · split
      · exact ih hcl.stop_ge hrest
      · exact ih hs hrest

theorem memberOf_move {n : Node} (hn : n.LiesIn a b) : memberOf t (n.move d) = memberOf s n := by
  unfold memberOf
  simp only [move_kind, move_namedChildren, List.find?_map, Function.comp_def]
  split
  · cases hlist : n.namedChildren.find? fun c => isNameList c.kind with
    | none => rfl
    | some list =>
      have hl := hn.namedChildren (List.mem_of_find?_eq_some hlist)
      obtain ⟨hhead, hge⟩ := headStart_move h hn.start_ge hl.start_ge fun c hc => hn.child hc
      simp only [Option.map_some, move_start, move_children, hhead, declaredNames_move h hl,
        h.slice_eq hge hl.start_ge hl.start_le]
  · rfl

theorem classOf_move {c : Node} (hc : c.LiesIn a b) : classOf t (c.move d) = classOf s c := by
  have hor : ∀ role kind, ((c.move d).childInRole role).or ((c.move d).namedChild kind)
      = ((c.childInRole role).or (c.namedChild kind)).map (Node.move d) := by
    intro role kind
    rw [move_childInRole, move_namedChild]
    cases c.childInRole role <;> rfl
  have hin : ∀ role kind m, (c.childInRole role).or (c.namedChild kind) = some m → m.LiesIn a b := by
    intro role kind m hm
    rcases Option.or_eq_some_iff.mp hm with hm | ⟨_, hm⟩
    · exact hc.childInRole hm
    · exact hc.namedChild hm
  unfold classOf
  simp only [hor, text_move_option h (hin "name" "identifier")]
  cases hbody : (c.childInRole "body").or (c.namedChild "class_body") with
  | none => rfl
  | some body =>
    have hmembers : body.namedChildren.map (memberOf t ∘ Node.move d)
        = body.namedChildren.map (memberOf s) := by
      apply List.map_congr_left
      intro n hn
      exact memberOf_move h ((hin _ _ body hbody).namedChildren hn)
    simp only [Option.map_some, move_namedChildren, List.map_map, hmembers]

theorem declarationOf?_move {c : Node} (hc : c.LiesIn a b) :
    declarationOf? t (c.move d) = declarationOf? s c := by
  have hdecl : isDeclaration (c.move d) = isDeclaration c := by simp [isDeclaration]
  unfold declarationOf?
  rw [hdecl, move_kind, classOf_move h hc, move_childInRole,
    text_move_option h fun m hm => hc.childInRole hm]

end Conversion

/-- **Conversion is local.** A child of the root of a tree whose ranges are nested is converted to the
same directive and to the same declaration wherever its bytes stand in a source, if its offsets and
those of all nodes below it are moved along. -/
theorem conversion_move {root c : Node} (hroot : root.Nested) (hc : c ∈ root.children)
    {s t : List UInt8} {d : Int} (h : SameBytes s t d c.start c.stop) :
    directiveOf? t (c.move d) = directiveOf? s c ∧ declarationOf? t (c.move d) = declarationOf? s c := by
  have hlies : c.LiesIn c.start c.stop :=
    ⟨Nat.le_refl _, Nat.le_refl _, (hroot.children c hc).2.2⟩
  exact ⟨directiveOf?_move h hlies, declarationOf?_move h hlies⟩

/-! ## A class behind a comment -/

/-- The bytes of a class behind a comment with a character of two bytes. -/
def commentedSource : List UInt8 := Text.Utf8.encode "// é\nclass A { static int x; }".toList

/-- The bytes of that class with another comment behind it. -/
def movedSource : List UInt8 := Text.Utf8.encode "class A { static int x; } // ü".toList

/-- The class. -/
def commentedClass : Node :=
  { kind := "class_definition", start := 6, stop := 31
    children :=
      [{ kind := "class", start := 6, stop := 11, named := false },
        { kind := "identifier", start := 12, stop := 13, role := some "name" },
        { kind := "class_body", start := 14, stop := 31, role := some "body"
          children := [{ kind := "declaration", start := 16, stop := 28
                         children := [{ kind := "initialized_identifier_list", start := 27, stop := 28 }] }] }] }

theorem conversion_move_class :
    (Node.Nested { kind := "program", start := 0, stop := 31, children := [commentedClass] } ∧
        SameBytes commentedSource movedSource (-6) commentedClass.start commentedClass.stop) ∧
      declarationOf? movedSource (commentedClass.move (-6)) = declarationOf? commentedSource commentedClass := by
  have hnested : Node.Nested { kind := "program", start := 0, stop := 31, children := [commentedClass] } := by
    simp [Node.Nested, NestedIn, commentedClass]
  have hbytes : SameBytes commentedSource movedSource (-6) commentedClass.start commentedClass.stop :=
    ⟨by decide, by decide +kernel⟩
  exact ⟨⟨hnested, hbytes⟩, (conversion_move hnested List.mem_cons_self hbytes).2⟩

end DartSurvey.Tree
