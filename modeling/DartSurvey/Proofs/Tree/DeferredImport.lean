import DartSurvey.Proofs.Dart.Comments
import DartSurvey.Proofs.Text.WholeChars
import DartSurvey.Proofs.Tree.Insertion

/-!
# Deferred imports

Whether an import is deferred is read from the text between its address and its name. The word may
stand there in several places (`Stretch.StandsAt`), as the keyword of the import or as a part of
something else.

- A text that is read of a range of bytes has its parts at offsets of their own (`slice_split`).
- `importOf_deferred_iff`: an import is deferred exactly if one of the places is seen
  (`Stretch.IsSeen`). A place that is seen without being a keyword is covered by a child or stands
  beside a dollar sign; a keyword that is not seen is taken for a part of a comment or stands beside a
  letter that no identifier has.
-/

namespace DartSurvey.Tree

open Dart Text

/-! ## Words in a range of bytes -/

section Slice

variable {source : List UInt8} {word : List Char} {a p b : Nat}

/-- From the place of a word on, a range holds the word and what stands behind it. -/
theorem slice_word (hword : Utf8.encode word <+: source.drop p) (hb : p + Utf8.size word ≤ b) :
    slice source p b = word ++ slice source (p + Utf8.size word) b := by
  obtain ⟨more, hmore⟩ := hword
  have hbehind : source.drop (p + Utf8.size word) = more := by
    rw [← List.drop_drop, ← hmore, Utf8.size, List.drop_left]
  have hlen : (Utf8.encode word).length = Utf8.size word := rfl
  rw [slice, slice, hbehind, ← hmore, List.take_append, List.take_of_length_le (by omega),
    Utf8.decodeWhole_encode_append, hlen]
  congr 3
  omega

theorem slice_self (source : List UInt8) (p : Nat) : slice source p p = [] := by
  rw [slice, Nat.sub_self, List.take_zero, Utf8.decodeWhole_nil]

/-- A range with a word in it: what stands before the word, the word, and what stands behind it. -/
theorem slice_around (hne : word ≠ []) (hword : Utf8.encode word <+: source.drop p) (ha : a ≤ p)
    (hb : p + Utf8.size word ≤ b) :
    slice source a b = slice source a p ++ (word ++ slice source (p + Utf8.size word) b) := by
  have hclean : Utf8.StartsClean (source.drop p) := by
    obtain ⟨more, hmore⟩ := hword
    intro x hx
    rw [← hmore, List.head?_append_of_ne_nil _ (List.length_pos_iff.mp (Utf8.size_pos hne))] at hx
    exact Utf8.startsClean_encode word x hx
  rw [slice_append hclean ha (by omega), slice_word hword hb]

/-- A word in what is read of a range stands in the text at an offset of its own. -/
theorem slice_split {cs x y : List Char} (hne : word ≠ [])
    (h : slice (Utf8.encode cs) a b = x ++ (word ++ y)) :
    ∃ p, a ≤ p ∧ p + Utf8.size word ≤ b ∧ Utf8.encode word <+: (Utf8.encode cs).drop p ∧
      slice (Utf8.encode cs) a p = x ∧ slice (Utf8.encode cs) (p + Utf8.size word) b = y := by
  obtain ⟨front, text, back, hcs, htext, hrange⟩ := Utf8.decodeWhole_range cs a b
  obtain rfl : text = x ++ (word ++ y) := htext.symm.trans h
  obtain ⟨ha, hb⟩ := hrange (by simp [hne])
  rw [Utf8.size_append, Utf8.size_append] at hb
  -- the parts of the text, each at its place
  have hx := Utf8.encode_prefix_drop (show cs = front ++ (x ++ (word ++ (y ++ back))) by simp [hcs])
  have hword := Utf8.encode_prefix_drop (show cs = front ++ x ++ (word ++ (y ++ back)) by simp [hcs])
  have hy := Utf8.encode_prefix_drop (show cs = front ++ x ++ word ++ (y ++ back) by simp [hcs])
  rw [Utf8.size_append] at hword
  rw [Utf8.size_append, Utf8.size_append] at hy
  have hclean : Utf8.StartsClean ((Utf8.encode cs).drop (Utf8.size front)) := by
    rw [hcs, Utf8.encode_append, Utf8.size, List.drop_left]
    exact Utf8.startsClean_encode _
  have hbefore : slice (Utf8.encode cs) a (Utf8.size front + Utf8.size x)
      = slice (Utf8.encode cs) a (Utf8.size front) ++ x := by
    rw [slice_append hclean ha (Nat.le_add_right _ _), slice_word hx (Nat.le_refl _), slice_self,
      List.append_nil]
  have hap : a ≤ Utf8.size front + Utf8.size x := by omega
  have hpb : Utf8.size front + Utf8.size x + Utf8.size word ≤ b := by omega
  have hbehind := slice_word hy (show _ ≤ b by omega)
  have haround := slice_around hne hword hap hpb
  rw [hbefore, hbehind, h] at haround
  -- nothing is read of the bytes before the first part and behind the last
  have hlength := congrArg List.length haround
  simp only [List.length_append] at hlength
  have hfirst := List.eq_nil_of_length_eq_zero
    (show (slice (Utf8.encode cs) a (Utf8.size front)).length = 0 by omega)
  have hlast := List.eq_nil_of_length_eq_zero (show (slice (Utf8.encode cs)
    (Utf8.size front + Utf8.size x + Utf8.size word + Utf8.size y) b).length = 0 by omega)
  exact ⟨_, hap, hpb, hword, by rw [hbefore, hfirst, List.nil_append],
    by rw [hbehind, hlast, List.append_nil]⟩

end Slice

/-! ## Places of the word -/

/-- The word of a deferred import. -/
def deferredWord : List Char := "deferred".toList

/-- Whether a character can stand in an identifier. -/
def isIdentifierChar (c : Char) : Bool := c.isAlphanum || c == '_' || c == '$'

/-- That some child that is not anonymous covers a byte of the word at an offset. -/
def Node.Covers (n : Node) (p : Nat) : Prop :=
  ∃ c ∈ n.namedChildren, max p c.start < min (p + Utf8.size deferredWord) c.stop

instance (n : Node) (p : Nat) : Decidable (n.Covers p) :=
  inferInstanceAs (Decidable (∃ c ∈ n.namedChildren, _))

/-- A range of the bytes of a source. -/
structure Stretch where
  source : List UInt8
  start : Nat
  stop : Nat

namespace Stretch

/-- The text of a stretch. -/
def text (r : Stretch) : List Char := slice r.source r.start r.stop

variable (r : Stretch) (p : Nat)

/-- What a stretch holds before the word at an offset. -/
def before : List Char := slice r.source r.start p

/-- What a stretch holds behind the word at an offset. -/
def behind : List Char := slice r.source (p + Utf8.size deferredWord) r.stop

/-- That the word stands at an offset of a stretch. -/
structure StandsAt : Prop where
  start_le : r.start ≤ p
  le_stop : p + Utf8.size deferredWord ≤ r.stop
  bytes : Utf8.encode deferredWord <+: r.source.drop p

/-- That the word at an offset has a character next to it. -/
def Beside (c : Char) : Prop := c ∈ (r.before p).getLast? ∨ c ∈ (r.behind p).head?

/-- That the word at an offset is reached outside of what is read as comments. -/
def IsOutside : Prop := Outside r.text (deferredWord ++ r.behind p)

/-- That the word at an offset is seen: it is outside comments, with no word character next to it. -/
structure IsSeen : Prop extends r.StandsAt p where
  outside : r.IsOutside p
  apart : ∀ c, r.Beside p c → isWordChar c = false

/-- That the word at an offset is a keyword: it stands between the children of a node, as an identifier
of its own. -/
structure IsKeyword (n : Node) : Prop extends r.StandsAt p where
  bare : ¬n.Covers p
  apart : ∀ c, r.Beside p c → isIdentifierChar c = false

end Stretch

section Places

variable {r : Stretch} {p : Nat} {n : Node}

theorem deferredWord_ne_nil : deferredWord ≠ [] := by decide

theorem isWordChar_deferredWord : ∀ c ∈ deferredWord, isWordChar c = true :=
  List.all_eq_true.mp (by decide)

theorem Stretch.StandsAt.text_eq (h : r.StandsAt p) :
    r.text = r.before p ++ (deferredWord ++ r.behind p) :=
  slice_around deferredWord_ne_nil h.bytes h.start_le h.le_stop

theorem Stretch.StandsAt.eq_of_only {place : Nat} (h : r.StandsAt p)
    (honly : ∀ q < r.stop, Utf8.encode deferredWord <+: r.source.drop q → q = place) : p = place := by
  have hpos := Utf8.size_pos deferredWord_ne_nil
  have hle := h.le_stop
  exact honly p (by omega) h.bytes

/-- The word is found in a text without its comments exactly if one of its places is seen. -/
theorem hasWord_iff_isSeen {cs : List Char} (h : r.source = Utf8.encode cs) :
    hasWord deferredWord false (stripComments r.text) = true ↔ ∃ p, r.IsSeen p := by
  rw [hasWord_strip_iff deferredWord_ne_nil isWordChar_deferredWord]
  simp only [endsWord_eq_false_iff, startsWord_eq_false_iff]
  constructor
  · rintro ⟨front, back, htext, houtside, hfront, hback⟩
    rw [Stretch.text, h] at htext
    obtain ⟨p, hstart, hstop, hbytes, rfl, rfl⟩ := slice_split deferredWord_ne_nil htext
    rw [← h] at hbytes hfront hback houtside
    refine ⟨p, ⟨hstart, hstop, hbytes⟩, houtside, ?_⟩
    rintro c (hc | hc)
    · exact hfront c hc
    · exact hback c hc
  · rintro ⟨p, hseen⟩
    exact ⟨_, _, hseen.text_eq, hseen.outside, fun c hc => hseen.apart c (Or.inl hc),
      fun c hc => hseen.apart c (Or.inr hc)⟩

/-- With no slash before it in the stretch, a place is outside comments. -/
theorem Stretch.StandsAt.isOutside (h : r.StandsAt p) (hslash : '/' ∉ r.before p) : r.IsOutside p := by
  rw [Stretch.IsOutside, h.text_eq]
  exact outside_append hslash _

theorem isIdentifierChar_ascii {c : Char} (h : isIdentifierChar c = true) : c.toNat < 128 := by
  delta isIdentifierChar Char.isAlphanum Char.isAlpha Char.isUpper Char.isLower Char.isDigit at h
  simp only [Bool.or_eq_true, Bool.and_eq_true, decide_eq_true_eq, beq_iff_eq, ge_iff_le,
    UInt32.le_iff_toNat_le] at h
  rcases h with (((h | h) | h) | rfl) | rfl
  · exact Nat.lt_of_le_of_lt h.2 (by decide)
  · exact Nat.lt_of_le_of_lt h.2 (by decide)
  · exact Nat.lt_of_le_of_lt h.2 (by decide)
  · decide
  · decide

/-- Identifiers have the word characters of ASCII, and the dollar sign. -/
theorem isIdentifierChar_iff (c : Char) :
    isIdentifierChar c = true ↔ isWordChar c = true ∧ c.toNat < 128 ∨ c = '$' := by
  by_cases hc : c.toNat < 128
  · rw [isIdentifierChar, isWordChar, if_pos hc]
    simp [hc]
  · refine ⟨fun h => absurd (isIdentifierChar_ascii h) hc, ?_⟩
    rintro (⟨-, hlt⟩ | rfl)
    · exact absurd hlt hc
    · rfl

/-- A place that is seen is a keyword, unless a child covers it or a dollar sign stands beside it. -/
theorem Stretch.IsSeen.isKeyword (h : r.IsSeen p) (n : Node) :
    r.IsKeyword p n ∨ n.Covers p ∨ r.Beside p '$' := by
  by_cases hcovers : n.Covers p
  · exact Or.inr (Or.inl hcovers)
  by_cases hdollar : r.Beside p '$'
  · exact Or.inr (Or.inr hdollar)
  refine Or.inl ⟨h.toStandsAt, hcovers, fun c hc => ?_⟩
  rw [← Bool.not_eq_true, isIdentifierChar_iff]
  rintro (⟨hword, -⟩ | rfl)
  · rw [h.apart c hc] at hword
    cases hword
  · exact hdollar hc

/-- A keyword is seen, unless it is read inside a comment or a word character stands beside it that no
identifier has. -/
theorem Stretch.IsKeyword.isSeen (h : r.IsKeyword p n) :
    r.IsSeen p ∨ ¬r.IsOutside p ∨ ∃ c, r.Beside p c ∧ isWordChar c = true ∧ 128 ≤ c.toNat := by
  by_cases houtside : r.IsOutside p
  · by_cases hbeside : ∃ c, r.Beside p c ∧ isWordChar c = true ∧ 128 ≤ c.toNat
    · exact Or.inr (Or.inr hbeside)
    refine Or.inl ⟨h.toStandsAt, houtside, fun c hc => ?_⟩
    rw [← Bool.not_eq_true]
    intro hword
    have hident := h.apart c hc
    rw [← Bool.not_eq_true, isIdentifierChar_iff] at hident
    exact hbeside ⟨c, hc, hword, Nat.le_of_not_lt fun hlt => hident (Or.inl ⟨hword, hlt⟩)⟩
  · exact Or.inr (Or.inl houtside)

end Places

/-! ## Imports -/

/-- What is read for the word: the bytes between the address of an import and its name, or up to the
end without a name. -/
def deferredStretch (source : List UInt8) (spec address : Node) : Stretch :=
  { source, start := address.stop, stop := ((spec.namedChild "identifier").map Node.start).getD spec.stop }

theorem importOf_eq (source : List UInt8) {spec address : Node}
    (h : (spec.findFirst "uri").or (spec.findFirst "string_literal") = some address) :
    importOf source spec = .importing (literalValue? (address.text source))
      ((spec.namedChild "identifier").map (Node.text source))
      (hasWord deferredWord false (stripComments (deferredStretch source spec address).text)) := by
  simp only [importOf, h, deferredStretch, Stretch.text]
  cases spec.namedChild "identifier" <;> rfl

/-- **When an import is deferred.** An import with an address is deferred exactly if the word is seen
somewhere behind the address. Where it is seen it is the keyword of the import, or a child covers it, or
a dollar sign stands beside it; and a keyword is seen, unless it is read as a part of a comment or a
word character stands beside it that no identifier has. -/
theorem importOf_deferred_iff (cs : List Char) {spec address : Node}
    (h : (spec.findFirst "uri").or (spec.findFirst "string_literal") = some address) :
    let source := Utf8.encode cs
    let r := deferredStretch source spec address
    ∃ deferred : Bool,
      importOf source spec = .importing (literalValue? (address.text source))
        ((spec.namedChild "identifier").map (Node.text source)) deferred ∧
      (deferred = true ↔ ∃ p, r.IsSeen p) ∧
      (∀ p, r.IsSeen p → r.IsKeyword p spec ∨ spec.Covers p ∨ r.Beside p '$') ∧
      (∀ p, r.IsKeyword p spec →
        r.IsSeen p ∨ ¬r.IsOutside p ∨ ∃ c, r.Beside p c ∧ isWordChar c = true ∧ 128 ≤ c.toNat) := by
  intro source r
  exact ⟨_, importOf_eq source h, hasWord_iff_isSeen rfl, fun p hseen => hseen.isKeyword spec,
    fun p hkeyword => hkeyword.isSeen⟩

/-! ## Two imports that are misread -/

/-- The address at the start of an import. -/
def firstAddress : Node :=
  { kind := "uri", start := 7, stop := 10
    children := [{ kind := "string_literal", start := 7, stop := 10 }] }

/-- An import that shows a name. -/
def shownText : List Char := "import 'b' show deferred;".toList

/-- The specification of that import. -/
def shownImport : Node :=
  { kind := "import_specification", start := 0, stop := 25
    children :=
      [{ kind := "import", start := 0, stop := 6, named := false },
        { kind := "configurable_uri", start := 7, stop := 10, children := [firstAddress] },
        { kind := "combinator", start := 11, stop := 24
          children :=
            [{ kind := "show", start := 11, stop := 15, named := false },
              { kind := "identifier", start := 16, stop := 24 }] },
        { kind := ";", start := 24, stop := 25, named := false }] }

theorem address_shown :
    (shownImport.findFirst "uri").or (shownImport.findFirst "string_literal") = some firstAddress := rfl

def shownStretch : Stretch := deferredStretch (Utf8.encode shownText) shownImport firstAddress

theorem standsAt_shown : shownStretch.StandsAt 16 := ⟨by decide, by decide, by decide⟩

theorem around_shown : shownStretch.before 16 = " show ".toList ∧ shownStretch.behind 16 = [';'] := by
  rw [Stretch.before, Stretch.behind, slice, slice, Utf8.decodeWhole_ascii (by decide),
    Utf8.decodeWhole_ascii (by decide)]
  decide

theorem isSeen_shown : shownStretch.IsSeen 16 := by
  refine ⟨standsAt_shown, standsAt_shown.isOutside ?_, ?_⟩
  · rw [around_shown.1]
    decide
  · simp only [Stretch.Beside, around_shown]
    rintro c (hc | hc)
    · cases hc
      decide
    · cases hc
      decide

/-- A deferred import with a nested comment, of which two slashes are left behind the inner one. -/
def hiddenText : List Char := "import 'a' /* /* */ // */ deferred as p;".toList

/-- The specification of that import. -/
def hiddenImport : Node :=
  { kind := "import_specification", start := 0, stop := 40
    children :=
      [{ kind := "import", start := 0, stop := 6, named := false }, firstAddress,
        { kind := "comment", start := 11, stop := 25 },
        { kind := "deferred", start := 26, stop := 34, named := false },
        { kind := "as", start := 35, stop := 37, named := false },
        { kind := "identifier", start := 38, stop := 39 },
        { kind := ";", start := 39, stop := 40, named := false }] }

theorem address_hidden :
    (hiddenImport.findFirst "uri").or (hiddenImport.findFirst "string_literal") = some firstAddress := rfl

def hiddenStretch : Stretch := deferredStretch (Utf8.encode hiddenText) hiddenImport firstAddress

theorem standsAt_hidden : hiddenStretch.StandsAt 26 := ⟨by decide, by decide, by decide⟩

theorem around_hidden :
    hiddenStretch.before 26 = " /* /* */ // */ ".toList ∧ hiddenStretch.behind 26 = " as ".toList := by
  rw [Stretch.before, Stretch.behind, slice, slice, Utf8.decodeWhole_ascii (by decide),
    Utf8.decodeWhole_ascii (by decide)]
  decide

theorem isKeyword_hidden : hiddenStretch.IsKeyword 26 hiddenImport := by
  refine ⟨standsAt_hidden, by decide, ?_⟩
  simp only [Stretch.Beside, around_hidden]
  rintro c (hc | hc)
  · cases hc
    decide
  · cases hc
    decide

/-- A comment is taken to end with the inner one, so the two slashes are taken to open another. -/
theorem not_isOutside_hidden : ¬hiddenStretch.IsOutside 26 := by
  intro h
  rw [Stretch.IsOutside, standsAt_hidden.text_eq, around_hidden.1, around_hidden.2] at h
  obtain ⟨front, left, -, hleft, -⟩ := h.strip
  have htext : " /* /* */ // */ ".toList ++ (deferredWord ++ " as ".toList)
      = ' ' :: '/' :: '*' :: " /* */ // */ deferred as ".toList := by decide
  have hclose : afterClose " /* */ // */ deferred as ".toList
      = some (' ' :: '/' :: '/' :: " */ deferred as ".toList) := by decide
  have hend : afterLine " */ deferred as ".toList = [] := by decide
  have hspace : ∀ cs, stripComments (' ' :: cs) = ' ' :: stripComments cs :=
    fun cs => strip_kept (opensComment_cons (by decide) cs)
  rw [htext, hspace, strip_block hclose, hspace, strip_line, hend, strip_nil,
    stripComments_eq_self (by decide)] at hleft
  have hsuffix : deferredWord ++ " as ".toList <:+ [' ', ' ', ' ', ' '] := ⟨left, hleft.symm⟩
  exact absurd hsuffix (by decide)

/-- A name that is shown is taken for the keyword, and behind a nested comment the keyword may not be
seen. -/
theorem importOf_deferred_misread :
    (importOf (Utf8.encode shownText) shownImport = .importing (some "b") none true ∧
      ∀ p, ¬shownStretch.IsKeyword p shownImport) ∧
    importOf (Utf8.encode hiddenText) hiddenImport = .importing (some "a") (some "p") false ∧
      hiddenStretch.IsKeyword 26 hiddenImport := by
  have hb : firstAddress.text (Utf8.encode shownText) = "'b'" := by
    rw [Node.text, Node.chars, slice, Utf8.decodeWhole_ascii (by decide)]
    decide
  have ha : firstAddress.text (Utf8.encode hiddenText) = "'a'" := by
    rw [Node.text, Node.chars, slice, Utf8.decodeWhole_ascii (by decide)]
    decide
  have hp : slice (Utf8.encode hiddenText) 38 39 = ['p'] := by
    rw [slice, Utf8.decodeWhole_ascii (by decide)]
    decide
  have hname : (hiddenImport.namedChild "identifier").map (Node.text (Utf8.encode hiddenText)) = some "p" :=
    congrArg (fun cs => some (String.ofList cs)) hp
  obtain ⟨shown, hshown, hshownSeen, -⟩ := importOf_deferred_iff shownText address_shown
  obtain ⟨hidden, hhidden, hhiddenSeen, -⟩ := importOf_deferred_iff hiddenText address_hidden
  refine ⟨⟨?_, ?_⟩, ?_, isKeyword_hidden⟩
  · rw [hshown, hshownSeen.mpr ⟨16, isSeen_shown⟩, hb]
    decide
  · intro p hkeyword
    obtain rfl : p = 16 := hkeyword.eq_of_only (by decide)
    exact hkeyword.bare (by decide)
  · have hfalse : hidden = false := by
      rw [← Bool.not_eq_true, hhiddenSeen]
      rintro ⟨p, hseen⟩
      obtain rfl : p = 26 := hseen.eq_of_only (by decide)
      exact not_isOutside_hidden hseen.outside
    rw [hhidden, hfalse, hname, ha]
    decide

end DartSurvey.Tree
