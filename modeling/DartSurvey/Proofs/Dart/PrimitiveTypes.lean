import DartSurvey.Policy
import DartSurvey.Proofs.Dart.TypeLayout
import DartSurvey.Proofs.Dart.Word

/-!
# Primitive types in any layout

The filter for primitive types compares the reported type with a fixed set of spellings. Here the types
that it rejects are described by their text in the source: the tokens of such a spelling, with any
blanks around and between them (`Spaced`).

- Two characters are `tight` if blanks between them leave no space in the report. Tokens are seamless
  if characters are tight where a token meets the next one, and nowhere inside a token (`Seamless`).
- A text is laid out as seamless tokens without a space exactly if it consists of these tokens with
  any blanks around and between them (`normaliseType_eq_join_iff`). For the one direction the blanks
  between tokens vanish (`laidOut_token`), for the other blanks inside a token would be seen
  (`eq_append_of_laidOut`).
- The spellings of primitive types are seamless (`seamless_primitiveTokens`), so
  `rejects_normaliseType_iff` says which types the filter rejects.
-/

namespace DartSurvey.Dart

open Text

/-! ## Tokens with blanks -/

/-- That a text consists of tokens with any blanks around and between them. -/
inductive Spaced : List String → List Char → Prop
  | nil {gap : List Char} (h : gap.all isBlank = true) : Spaced [] gap
  | cons {gap rest : List Char} {token : String} {tokens : List String} (h : gap.all isBlank = true)
      (hrest : Spaced tokens rest) : Spaced (token :: tokens) (gap ++ (token.toList ++ rest))

/-- Whether blanks between two characters leave no space: behind `<`, and before `<`, `>` and `?`. -/
def tight (c d : Char) : Bool := c == '<' || closesUp d

/-- A token: neither empty nor with blanks or commas, and blanks inside it would leave a space. -/
structure IsToken (t : List Char) : Prop where
  ne_nil : t ≠ []
  not_isBlank : ∀ c ∈ t, isBlank c = false
  ne_comma : ∀ c ∈ t, c ≠ ','
  loose : t.IsChain fun c d => tight c d = false

/-- The text of tokens with nothing between them. -/
def joined (tokens : List String) : List Char := tokens.flatMap String.toList

/-- Tokens whose last and first characters are tight where one meets the next. -/
inductive Seamless : List String → Prop
  | nil : Seamless []
  | cons {t : String} {ts : List String} (ht : IsToken t.toList)
      (hmeet : ∀ c ∈ t.toList.getLast?, ∀ d ∈ (joined ts).head?, tight c d = true) (hts : Seamless ts) :
      Seamless (t :: ts)

theorem IsToken.tail {c d : Char} {t : List Char} (h : IsToken (c :: d :: t)) : IsToken (d :: t) :=
  ⟨List.cons_ne_nil d t, fun x hx => h.not_isBlank x (List.mem_cons_of_mem c hx),
    fun x hx => h.ne_comma x (List.mem_cons_of_mem c hx), (List.isChain_cons_cons.mp h.loose).2⟩

theorem isToken_singleton {c : Char} (hblank : isBlank c = false) (hcomma : c ≠ ',') : IsToken [c] :=
  ⟨List.cons_ne_nil c [], by simp [hblank], by simp [hcomma], .singleton c⟩

/-- A text is a token if all its characters are of a kind that has neither blanks nor commas nor
marks that close up. -/
theorem isToken_of_all {p : Char → Bool} {t : List Char} (hne : t ≠ []) (h : ∀ c ∈ t, p c = true)
    (hblank : ∀ c, isBlank c = true → p c = false)
    (hmarks : p ',' = false ∧ p '<' = false ∧ p '>' = false ∧ p '?' = false) : IsToken t := by
  obtain ⟨hcomma, hopen, hclose, hquery⟩ := hmarks
  have hother : ∀ c ∈ t, ∀ d, p d = false → c ≠ d := by
    rintro c hc d hd rfl
    rw [h c hc] at hd
    cases hd
  refine ⟨hne, ?_, fun c hc => hother c hc ',' hcomma, ?_⟩
  · intro c hc
    by_contra hsolid
    exact hother c hc c (hblank c (by simpa using hsolid)) rfl
  · refine (List.pairwise_of_forall_mem_list ?_).isChain
    intro c hc d hd
    have hd' := hother d hd
    simp [tight, closesUp, hother c hc '<' hopen, hd' '<' hopen, hd' '>' hclose, hd' '?' hquery]

/-- A word is a token. -/
theorem isToken_word {t : List Char} (hne : t ≠ []) (h : t.all isWordChar = true) : IsToken t :=
  isToken_of_all hne (List.all_eq_true.mp h) (fun _ => not_isWordChar_of_isBlank) (by decide)

theorem head?_joined (t : String) (ts : List String) (h : t.toList ≠ []) :
    (joined (t :: ts)).head? = t.toList.head? := by
  obtain ⟨c, cs, hc⟩ := List.exists_cons_of_ne_nil h
  rw [joined, List.flatMap_cons, hc]
  rfl

/-- Seamless tokens start with a character that is not blank. -/
theorem Seamless.not_isBlank_head {tokens : List String} (h : Seamless tokens) :
    ∀ c ∈ (joined tokens).head?, isBlank c = false := by
  cases h with
  | nil => simp [joined]
  | @cons t ts ht =>
    intro c hc
    rw [head?_joined t ts ht.ne_nil] at hc
    exact ht.not_isBlank c (List.mem_of_mem_head? hc)

theorem seamless_singleton {t : String} (h : IsToken t.toList) : Seamless [t] :=
  .cons h (by simp [joined]) .nil

/-- Any token can stand before `<`, `>` and `?`. -/
theorem Seamless.cons_closing {t : String} {ts : List String} (hts : Seamless ts) (ht : IsToken t.toList)
    (h : (joined ts).head?.all closesUp = true) : Seamless (t :: ts) := by
  refine .cons ht ?_ hts
  intro c _ d hd
  rw [Option.mem_def.mp hd] at h
  simpa [tight] using Or.inr h

/-- Any token can stand behind `<`. -/
theorem Seamless.cons_opening {ts : List String} (hts : Seamless ts) (ht : IsToken "<".toList) :
    Seamless ("<" :: ts) := by
  refine .cons ht ?_ hts
  intro c hc d _
  obtain rfl : c = '<' := by simpa using hc.symm
  rfl

/-! ## How the layout treats tokens -/

theorem layoutRule_tight {c d : Char} (hc : c ≠ ',') (h : tight c d = true) (blanks : Bool) :
    layoutRule c (some d) blanks = false := by
  simp only [tight, closesUp, Bool.or_eq_true, beq_iff_eq] at h
  rcases h with rfl | (rfl | rfl) | rfl
  · simp [layoutRule]
  · simp [layoutRule, hc]
  · simp [layoutRule, hc]
  · simp [layoutRule, hc]

theorem layoutRule_loose {c d : Char} (hd : d ≠ ',') (h : tight c d = false) :
    layoutRule c (some d) true = true := by
  simp only [tight, closesUp, Bool.or_eq_false_iff, beq_eq_false_iff_ne] at h
  obtain ⟨hc, ⟨hopen, hclose⟩, hquery⟩ := h
  simp [layoutRule, hc, hopen, hclose, hquery, hd]

theorem laidOut_cons_solid {c : Char} (h : isBlank c = false) (cs : List Char) :
    laidOut (c :: cs) =
      c :: ((if layoutRule c (nextSolid cs) (cs.head?.any isBlank) then [' '] else []) ++ laidOut cs) := by
  rw [laidOut, if_neg (by simp [h])]
  split <;> rfl

theorem laidOut_gap {gap : List Char} (h : gap.all isBlank = true) (cs : List Char) :
    laidOut (gap ++ cs) = laidOut cs := by
  induction gap with
  | nil => rfl
  | cons c gap ih =>
    rw [List.all_cons, Bool.and_eq_true] at h
    rw [List.cons_append, laidOut, if_pos h.1, ih h.2]

theorem head?_laidOut (cs : List Char) : (laidOut cs).head? = nextSolid cs := by
  fun_induction laidOut cs with
  | case1 => rfl
  | case2 c cs h ih => rw [ih, nextSolid_cons_blank h]
  | case3 c cs h hspace ih => rw [nextSolid_cons_solid (Bool.not_eq_true _ ▸ h), List.head?_cons]
  | case4 c cs h hspace ih => rw [nextSolid_cons_solid (Bool.not_eq_true _ ▸ h), List.head?_cons]

/-- Behind a token the layout goes on without a space if its last character and the next are tight. -/
theorem laidOut_token {t rest : List Char} (ht : IsToken t)
    (hrest : ∀ c ∈ t.getLast?, ∀ d ∈ nextSolid rest, tight c d = true) :
    laidOut (t ++ rest) = t ++ laidOut rest := by
  induction t with
  | nil => exact absurd rfl ht.ne_nil
  | cons c t ih =>
    have hcomma : c ≠ ',' := ht.ne_comma c List.mem_cons_self
    rw [List.cons_append, laidOut_cons_solid (ht.not_isBlank c List.mem_cons_self)]
    cases t with
    | nil =>
      have hspace : layoutRule c (nextSolid rest) (rest.head?.any isBlank) = false := by
        cases hnext : nextSolid rest with
        | none => simp [layoutRule, hcomma]
        | some d => exact layoutRule_tight hcomma (hrest c rfl d hnext) _
      simp [hspace]
    | cons d t =>
      have hd : isBlank d = false := ht.tail.not_isBlank d List.mem_cons_self
      have hspace : layoutRule c (nextSolid (d :: t ++ rest)) ((d :: t ++ rest).head?.any isBlank) = false := by
        simp [layoutRule, hcomma, hd]
      rw [hspace, ih ht.tail fun x hx => hrest x (by simpa using hx)]
      rfl

/-- What is laid out as a token and more is that token behind any blanks, and the rest is laid out as
the rest. -/
theorem eq_append_of_laidOut {cs t r : List Char} (ht : IsToken t)
    (hr : ∀ c ∈ r.head?, isBlank c = false) (h : laidOut cs = t ++ r) :
    ∃ gap rest, gap.all isBlank = true ∧ cs = gap ++ (t ++ rest) ∧ laidOut rest = r := by
  obtain ⟨c', t', rfl⟩ := List.exists_cons_of_ne_nil ht.ne_nil
  fun_induction laidOut cs generalizing c' t' with
  | case1 => simp at h
  | case2 c cs hc ih =>
    obtain ⟨gap, rest, hgap, hcs, hrest⟩ := ih c' t' ht h
    exact ⟨c :: gap, rest, by simp [hc, hgap], by rw [hcs]; rfl, hrest⟩
  | case3 c cs hc hspace ih =>
    -- the space would stand inside the token, or at the start of the rest
    rw [List.cons_append, List.cons.injEq] at h
    have hhead : (t' ++ r).head? = some ' ' := by rw [← h.2]; rfl
    cases t' with
    | nil => exact absurd (hr ' ' hhead) (by simp [isBlank_space])
    | cons d t' =>
      obtain rfl : d = ' ' := by simpa using hhead
      exact absurd (ht.tail.not_isBlank ' ' List.mem_cons_self) (by simp [isBlank_space])
  | case4 c cs hc hspace ih =>
    rw [List.cons_append, List.cons.injEq] at h
    obtain ⟨rfl, h⟩ := h
    cases t' with
    | nil => exact ⟨[], cs, rfl, rfl, h⟩
    | cons d t' =>
      obtain ⟨gap, rest, hgap, hcs, hrest⟩ := ih d t' ht.tail h
      have hnext : nextSolid cs = some d := by rw [← head?_laidOut, h]; rfl
      cases gap with
      | nil => exact ⟨[], rest, rfl, by rw [hcs]; rfl, hrest⟩
      | cons b gap =>
        -- blanks behind `c` would have left a space
        rw [List.all_cons, Bool.and_eq_true] at hgap
        have hblank : cs.head?.any isBlank = true := by rw [hcs]; exact hgap.1
        have hloose := layoutRule_loose (ht.tail.ne_comma d List.mem_cons_self)
          (List.isChain_cons_cons.mp ht.loose).1
        rw [hnext, hblank] at hspace
        exact absurd hloose hspace

/-- **Seamless tokens.** A text is laid out as seamless tokens with nothing between them exactly if it
consists of these tokens with any blanks around and between them. -/
theorem laidOut_eq_joined_iff {tokens : List String} (h : Seamless tokens) (cs : List Char) :
    laidOut cs = joined tokens ↔ Spaced tokens cs := by
  induction h generalizing cs with
  | nil =>
    have hnil : laidOut cs = [] ↔ cs.all isBlank = true := by
      rw [← List.head?_eq_none_iff, head?_laidOut]
      simp [nextSolid]
    rw [joined, List.flatMap_nil, hnil]
    exact ⟨.nil, fun h => by cases h; assumption⟩
  | @cons t ts ht hmeet hts ih =>
    constructor
    · intro hcs
      obtain ⟨gap, rest, hgap, rfl, hrest⟩ := eq_append_of_laidOut ht hts.not_isBlank_head hcs
      exact .cons hgap ((ih rest).mp hrest)
    · intro hcs
      cases hcs with
      | @cons gap rest _ _ hgap hspaced =>
        have hrest : laidOut rest = joined ts := (ih rest).mpr hspaced
        have hnext : nextSolid rest = (joined ts).head? := by rw [← head?_laidOut, hrest]
        rw [laidOut_gap hgap, laidOut_token ht (by rwa [hnext]), hrest]
        rfl

/-- A type is reported as seamless tokens with nothing between them exactly if it consists of them. -/
theorem normaliseType_eq_join_iff {tokens : List String} (h : Seamless tokens) (text : String) :
    normaliseType text = String.join tokens ↔ Spaced tokens text.toList := by
  rw [← laidOut_eq_joined_iff h, normaliseType, normaliseTypeChars_eq_laidOut, ← String.toList_inj,
    String.toList_ofList, String.toList_join, joined]

/-! ## Primitive types -/

/-- The tokens of the forms of a primitive type. -/
def primitiveTokens (name : String) : List (List String) :=
  [[name], [name, "?"], ["Future", "<", name, ">"], ["Future", "<", name, "?", ">"]]

theorem primitiveNames_word : ∀ name ∈ Policy.primitiveNames, name.toList.all isWordChar = true := by decide

theorem primitiveNames_ne_nil : ∀ name ∈ Policy.primitiveNames, name.toList ≠ [] := by decide

theorem seamless_primitiveTokens {name : String} (h : name ∈ Policy.primitiveNames) :
    ∀ tokens ∈ primitiveTokens name, Seamless tokens := by
  have hname : IsToken name.toList := isToken_word (primitiveNames_ne_nil name h) (primitiveNames_word name h)
  have hfuture : IsToken "Future".toList := isToken_word (by decide) (by decide)
  have hopen : IsToken "<".toList := isToken_singleton (by decide) (by decide)
  have hclose : IsToken ">".toList := isToken_singleton (by decide) (by decide)
  have hquery : IsToken "?".toList := isToken_singleton (by decide) (by decide)
  simp only [primitiveTokens, List.forall_mem_cons]
  refine ⟨seamless_singleton hname, ?_, ?_, ?_, by simp⟩
  · exact (seamless_singleton hquery).cons_closing hname rfl
  · exact (((seamless_singleton hclose).cons_closing hname rfl).cons_opening hopen).cons_closing hfuture rfl
  · exact ((((seamless_singleton hclose).cons_closing hquery rfl).cons_closing hname rfl).cons_opening
      hopen).cons_closing hfuture rfl

theorem primitiveForms_eq (name : String) :
    Policy.primitiveForms name = (primitiveTokens name).map String.join := by
  have hsplit : "?>" = "?" ++ ">" := rfl
  simp only [Policy.primitiveForms, primitiveTokens, hsplit, ← String.append_assoc]
  rfl

theorem isPrimitive_iff (type : String) : Policy.isPrimitive type = true ↔
    ∃ name ∈ Policy.primitiveNames, ∃ tokens ∈ primitiveTokens name, type = String.join tokens := by
  simp only [Policy.isPrimitive, primitiveForms_eq]
  simp [eq_comm (a := type)]

/-- **The filter for primitive types sees through the layout.** A policy without primitive types rejects
a type exactly if its text consists of the tokens of a primitive type, plain, nullable or awaited in
either form, with any blanks around and between them. -/
theorem rejects_normaliseType_iff {p : Policy} (h : p.on .noPrimitives = true) (text : String) :
    p.passesPrimitives (normaliseType text) = false ↔
      ∃ name ∈ Policy.primitiveNames, ∃ tokens ∈ primitiveTokens name, Spaced tokens text.toList := by
  have hrejects : p.passesPrimitives (normaliseType text) = false ↔
      Policy.isPrimitive (normaliseType text) = true := by
    simp [Policy.passesPrimitives, h]
  rw [hrejects, isPrimitive_iff]
  refine exists_congr fun name => and_congr_right fun hname => ?_
  refine exists_congr fun tokens => and_congr_right fun htokens => ?_
  exact normaliseType_eq_join_iff (seamless_primitiveTokens hname tokens htokens) text

/-- The policy that leaves out primitive types and nothing else. -/
def primitivesLeftOut : Policy := ⟨fun s => s == .noPrimitives, rfl⟩

/-- A nullable type that is awaited is rejected over three lines; a type with its name in two parts is
not. -/
theorem rejects_normaliseType_spread :
    primitivesLeftOut.on .noPrimitives = true ∧
      (∃ name ∈ Policy.primitiveNames, ∃ tokens ∈ primitiveTokens name,
        Spaced tokens "\u3000Future\n<int\t?\n > ".toList) ∧
      ¬∃ name ∈ Policy.primitiveNames, ∃ tokens ∈ primitiveTokens name,
        Spaced tokens "Future<in t>".toList := by
  have hon : primitivesLeftOut.on .noPrimitives = true := rfl
  refine ⟨hon, (rejects_normaliseType_iff hon _).mp (by decide), ?_⟩
  rw [← rejects_normaliseType_iff hon]
  decide

end DartSurvey.Dart
