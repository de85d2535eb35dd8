import DartSurvey.Dart.StringLiteral
import DartSurvey.Proofs.Dart.Head
import Mathlib.Data.List.Infix

/-!
# Values of string literals

A literal ends at the first quote that is not escaped (`IsBody`). The reader of literals does not look
for that quote: it takes the quotes at both ends of a text and gives up if the same quote shows up in
between.

- What stands between the quotes of a literal holds no such quote (`IsBody.holdsQuote_eq_false`), so
  a literal is read as its body (`Literal.value_quoted`).
- Of several literals with blanks between them the last one opens behind a character that is no
  backslash, and that opening quote shows up in between (`value_behind`).
- `literalValue?_literals`: the value of one literal is its body, that of several is none.
-/

namespace DartSurvey.Dart

open Text

/-! ## Literals -/

/-- That a quote written behind a text ends a literal with this text as its body: no quote ends it
earlier. Unless the literal is raw, a backslash escapes the next character. -/
inductive IsBody (raw : Bool) (quote : List Char) : List Char → Prop
  | nil : IsBody raw quote []
  | escape (c : Char) {cs : List Char} (hraw : raw = false) (hcs : IsBody raw quote cs) :
      IsBody raw quote ('\\' :: c :: cs)
  | char {c : Char} {cs : List Char} (hc : raw = true ∨ c ≠ '\\') (hopen : ¬quote <+: c :: (cs ++ quote))
      (hcs : IsBody raw quote cs) : IsBody raw quote (c :: cs)

/-- A string literal. -/
structure Literal where
  raw : Bool
  quote : List Char
  body : List Char
  isQuote : quote ∈ quoteMarks
  isBody : IsBody raw quote body

/-- A literal without the mark of a raw one. -/
def Literal.quoted (l : Literal) : List Char := l.quote ++ (l.body ++ l.quote)

/-- The text of a literal. -/
def Literal.text (l : Literal) : List Char := if l.raw then 'r' :: l.quoted else l.quoted

/-- The characters of quotes. -/
def IsQuotationMark (c : Char) : Prop := c = '\'' ∨ c = '"'

theorem IsQuotationMark.not_isBlank {c : Char} (h : IsQuotationMark c) : isBlank c = false := by
  rcases h with rfl | rfl <;> decide

theorem IsQuotationMark.ne_backslash {c : Char} (h : IsQuotationMark c) : c ≠ '\\' := by
  rcases h with rfl | rfl <;> decide

/-- A quote is a quotation mark, or three of them. -/
theorem mem_quoteMarks {quote : List Char} :
    quote ∈ quoteMarks ↔ ∃ x, IsQuotationMark x ∧ (quote = [x] ∨ quote = [x, x, x]) := by
  constructor
  · intro h
    simp only [quoteMarks, List.mem_cons, List.not_mem_nil, or_false] at h
    rcases h with rfl | rfl | rfl | rfl
    · exact ⟨'\'', Or.inl rfl, Or.inr rfl⟩
    · exact ⟨'"', Or.inr rfl, Or.inr rfl⟩
    · exact ⟨'\'', Or.inl rfl, Or.inl rfl⟩
    · exact ⟨'"', Or.inr rfl, Or.inl rfl⟩
  · rintro ⟨x, rfl | rfl, rfl | rfl⟩ <;> simp [quoteMarks]

/-- A mark that is neither part of a quote nor a backslash. -/
def IsNeutral (c : Char) : Prop := ¬IsQuotationMark c ∧ c ≠ '\\'

theorem isNeutral_of_isBlank {c : Char} (h : isBlank c = true) : IsNeutral c := by
  refine ⟨fun hmark => ?_, ?_⟩
  · rw [hmark.not_isBlank] at h
    cases h
  · rintro rfl
    exact absurd h (by decide)

theorem isNeutral_r : IsNeutral 'r' := by
  unfold IsNeutral IsQuotationMark
  decide

/-! ## Quotes in a body -/

section Body

variable {raw : Bool} {quote body : List Char}

/-- Each quotation mark in a body between single ones stands behind a backslash. -/
theorem IsBody.escaped {x : Char} (hx : x ≠ '\\') (h : IsBody raw [x] body) {front back : List Char}
    (hb : body = front ++ x :: back) : ∃ front', front = front' ++ ['\\'] := by
  induction h generalizing front with
  | nil => simp at hb
  | escape c hraw hcs ih =>
    rcases front with _ | ⟨a, _ | ⟨b, front⟩⟩
    · exact absurd (List.cons.inj hb).1.symm hx
    · exact ⟨[], by rw [(List.cons.inj hb).1]; rfl⟩
    · obtain ⟨ha, htail⟩ := List.cons.inj hb
      obtain ⟨hb', htail⟩ := List.cons.inj htail
      obtain ⟨front', rfl⟩ := ih htail
      exact ⟨a :: b :: front', rfl⟩
  | char hc hopen hcs ih =>
    rcases front with _ | ⟨a, front⟩
    · rw [(List.cons.inj hb).1] at hopen
      exact absurd (by simp) hopen
    · obtain ⟨front', rfl⟩ := ih (List.cons.inj hb).2
      exact ⟨a :: front', rfl⟩

/-- The quote does not show up in a body. -/
theorem IsBody.holdsQuote_eq_false (hq : quote ∈ quoteMarks) (h : IsBody raw quote body) (escaped : Bool) :
    holdsQuote raw quote escaped body = false := by
  induction h generalizing escaped with
  | nil => rfl
  | @escape c cs hraw hcs ih =>
    have hopen : quote.isPrefixOf ('\\' :: c :: cs) = false := by
      obtain ⟨x, rfl | rfl, rfl | rfl⟩ := mem_quoteMarks.mp hq <;> rfl
    rw [holdsQuote, holdsQuote, hraw, hopen, ← hraw, ih]
    simp [hraw]
  | @char c cs hc hopen hcs ih =>
    have hopen' : quote.isPrefixOf (c :: cs) = false := by
      rw [← Bool.not_eq_true, List.isPrefixOf_iff_prefix]
      exact fun hp => hopen (hp.trans ⟨quote, rfl⟩)
    rw [holdsQuote, hopen', ih, Bool.and_false, Bool.or_false]

/-- A quote behind a neutral mark shows up. -/
theorem holdsQuote_behind {w : Char} (hw : IsNeutral w) (raw escaped : Bool) {quote : List Char}
    (hq : quote ≠ []) (front back : List Char) :
    holdsQuote raw quote escaped (front ++ w :: (quote ++ back)) = true := by
  induction front generalizing escaped with
  | nil =>
    obtain ⟨c, cs, rfl⟩ := List.exists_cons_of_ne_nil hq
    have hslash : (w == '\\') = false := beq_eq_false_iff_ne.mpr hw.2
    have hprefix : (c :: cs).isPrefixOf (c :: cs ++ back) = true :=
      List.isPrefixOf_iff_prefix.mpr (List.prefix_append _ _)
    rw [List.nil_append, holdsQuote, hslash, List.cons_append, holdsQuote, ← List.cons_append, hprefix]
    simp
  | cons a front ih => rw [List.cons_append, holdsQuote, ih, Bool.or_true]

end Body

/-! ## Quotes at both ends -/

theorem between?_eq_some_iff {quote cs body : List Char} :
    between? quote cs = some body ↔ cs = quote ++ (body ++ quote) := by
  unfold between?
  constructor
  · intro h
    split at h
    case isFalse => cases h
    case isTrue hc =>
      simp only [Bool.and_eq_true, decide_eq_true_eq, List.isPrefixOf_iff_prefix,
        List.isSuffixOf_iff_suffix] at hc
      obtain ⟨⟨hlen, ⟨rest, rfl⟩⟩, hs⟩ := hc
      rw [List.length_append] at hlen
      obtain ⟨body', rfl⟩ : quote <:+ rest :=
        List.suffix_of_suffix_length_le hs (List.suffix_append quote rest) (by omega)
      have hlen' : (quote ++ (body' ++ quote)).length - 2 * quote.length = body'.length := by
        simp only [List.length_append]
        omega
      rw [hlen', List.drop_left, List.take_left] at h
      rw [Option.some.inj h]
  · rintro rfl
    have hlen : (quote ++ (body ++ quote)).length - 2 * quote.length = body.length := by
      simp only [List.length_append]
      omega
    have hsuffix : quote <:+ quote ++ (body ++ quote) := ⟨quote ++ body, by simp⟩
    rw [hlen, List.drop_left, List.take_left, if_pos]
    simp only [Bool.and_eq_true, decide_eq_true_eq, List.isPrefixOf_iff_prefix,
      List.isSuffixOf_iff_suffix]
    refine ⟨⟨?_, List.prefix_append _ _⟩, hsuffix⟩
    simp only [List.length_append]
    omega

/-- The value of a text with quotes at both ends. -/
def valueBetween? (raw : Bool) (cs : List Char) : Option (List Char) :=
  (unquote? cs).bind fun (quote, body) => bodyValue? raw quote body

theorem unquote?_eq_some {cs quote body : List Char} (h : unquote? cs = some (quote, body)) :
    quote ∈ quoteMarks ∧ cs = quote ++ (body ++ quote) := by
  obtain ⟨quote', hmem, hbetween⟩ := List.exists_of_findSome?_eq_some h
  obtain ⟨body', hbody, heq⟩ := Option.map_eq_some_iff.mp hbetween
  cases heq
  exact ⟨hmem, between?_eq_some_iff.mp hbody⟩

/-- A quote around a literal is its own, or one quotation mark of three. -/
theorem Literal.surrounded_by (l : Literal) {quote body : List Char} (hq : quote ∈ quoteMarks)
    (h : l.quoted = quote ++ (body ++ quote)) :
    quote = l.quote ∨ quote.length = 1 ∧ l.quote.length = 3 := by
  obtain ⟨raw, own, ownBody, isQuote, isBody⟩ := l
  obtain ⟨x, hx, hown⟩ := mem_quoteMarks.mp isQuote
  obtain ⟨y, hy, hquote⟩ := mem_quoteMarks.mp hq
  have hxy : x = y := by
    have hhead := congrArg List.head? h
    rcases hown with rfl | rfl <;> rcases hquote with rfl | rfl <;> simpa [Literal.quoted] using hhead
  subst hxy
  rcases hown with rfl | rfl <;> rcases hquote with rfl | rfl
  · exact Or.inl rfl
  · -- the body would start with a quotation mark, which ends the literal
    have htail : ownBody ++ [x] = [x, x] ++ (body ++ [x, x, x]) := List.cons.inj h |>.2
    cases ownBody with
    | nil => simp at htail
    | cons c cs =>
      have hc : c = x := (List.cons.inj htail).1
      obtain ⟨front, hfront⟩ := isBody.escaped hx.ne_backslash (show c :: cs = [] ++ x :: cs by rw [hc]; rfl)
      simp at hfront
  · exact Or.inr ⟨rfl, rfl⟩
  · exact Or.inl rfl

/-- Three quotation marks are tried before one. -/
theorem quoteMarks_split {quote : List Char} (h : quote ∈ quoteMarks) :
    ∃ before after, quoteMarks = before ++ quote :: after ∧
      ∀ q ∈ before, q ∈ quoteMarks ∧ q ≠ quote ∧ ¬(q.length = 1 ∧ quote.length = 3) := by
  simp only [quoteMarks, List.mem_cons, List.not_mem_nil, or_false] at h
  rcases h with rfl | rfl | rfl | rfl
  · exact ⟨[], _, rfl, by decide⟩
  · exact ⟨[['\'', '\'', '\'']], _, rfl, by decide⟩
  · exact ⟨[['\'', '\'', '\''], ['"', '"', '"']], _, rfl, by decide⟩
  · exact ⟨[['\'', '\'', '\''], ['"', '"', '"'], ['\'']], _, rfl, by decide⟩

/-- The quotes of a literal are found. -/
theorem Literal.unquote?_quoted (l : Literal) : unquote? l.quoted = some (l.quote, l.body) := by
  have hown : (between? l.quote l.quoted).map (l.quote, ·) = some (l.quote, l.body) := by
    rw [between?_eq_some_iff.mpr (show l.quoted = l.quote ++ (l.body ++ l.quote) from rfl)]
    rfl
  have hother : ∀ quote ∈ quoteMarks, quote ≠ l.quote → ¬(quote.length = 1 ∧ l.quote.length = 3) →
      (between? quote l.quoted).map (quote, ·) = none := by
    intro quote hq hne hlen
    rw [Option.map_eq_none_iff, Option.eq_none_iff_forall_ne_some]
    intro body hbody
    exact (l.surrounded_by hq (between?_eq_some_iff.mp hbody)).elim hne hlen
  obtain ⟨before, after, hsplit, hbefore⟩ := quoteMarks_split l.isQuote
  rw [unquote?, List.findSome?_eq_some_iff]
  refine ⟨before, l.quote, after, hsplit, hown, fun quote hq => ?_⟩
  obtain ⟨hmem, hne, hlen⟩ := hbefore quote hq
  exact hother quote hmem hne hlen

/-- A quote at the end of a text that ends with a literal behind a neutral mark is the start and the
end of the literal's own. -/
theorem Literal.quote_of_suffix (l : Literal) {w : Char} (hw : IsNeutral w) {quote front : List Char}
    (hq : quote ∈ quoteMarks) (h : quote <:+ front ++ w :: l.quoted) :
    quote <+: l.quote ∧ quote <:+ l.quote := by
  obtain ⟨raw, own, body, isQuote, isBody⟩ := l
  obtain ⟨x, hx, hown⟩ := mem_quoteMarks.mp isQuote
  obtain ⟨y, hy, hquote⟩ := mem_quoteMarks.mp hq
  obtain ⟨start, hstart⟩ := h
  have hxy : y = x := by
    have hlast := congrArg List.getLast? hstart
    rcases hown with rfl | rfl <;> rcases hquote with rfl | rfl <;>
      simpa [Literal.quoted, List.getLast?_append, List.getLast?_cons] using hlast
  subst hxy
  rcases hown with rfl | rfl <;> rcases hquote with rfl | rfl
  · exact ⟨List.prefix_refl _, List.suffix_refl _⟩
  · -- three marks at the end of a literal between single ones: the body ends with two
    have hthree : start ++ [y, y] ++ [y] = front ++ w :: y :: body ++ [y] := by
      simpa [Literal.quoted] using hstart
    have htwo := (List.append_inj' hthree rfl).1
    rcases List.eq_nil_or_concat' body with rfl | ⟨inner, c, rfl⟩
    · have hmark : y = w := (List.cons.inj (List.append_inj' htwo rfl).2).1
      exact absurd (hmark ▸ hx) hw.1
    · have hend : start ++ [y] ++ [y] = front ++ w :: y :: inner ++ [c] := by simpa using htwo
      obtain ⟨hinner, hc⟩ := List.append_inj' hend rfl
      have hc : y = c := (List.cons.inj hc).1
      obtain ⟨inner', rfl⟩ := isBody.escaped hx.ne_backslash (show inner ++ [c] = inner ++ y :: [] by rw [hc])
      have hslash' : start ++ [y] = front ++ w :: y :: inner' ++ ['\\'] := by simpa using hinner
      exact absurd (List.cons.inj (List.append_inj' hslash' rfl).2).1 hx.ne_backslash
  · exact ⟨⟨[y, y], rfl⟩, ⟨[y, y], rfl⟩⟩
  · exact ⟨List.prefix_refl _, List.suffix_refl _⟩

/-- A literal behind a neutral mark leaves no value to the text it ends. -/
theorem Literal.value_behind (l : Literal) {w : Char} (hw : IsNeutral w) (raw : Bool) (front : List Char) :
    valueBetween? raw (front ++ w :: l.quoted) = none := by
  rw [valueBetween?, Option.bind_eq_none_iff]
  rintro ⟨quote, body⟩ hfound
  obtain ⟨hq, htext⟩ := unquote?_eq_some hfound
  have hsuffix : quote <:+ front ++ w :: l.quoted := ⟨quote ++ body, by rw [htext, List.append_assoc]⟩
  obtain ⟨⟨back, hback⟩, ⟨lead, hlead⟩⟩ := l.quote_of_suffix hw hq hsuffix
  have hnot : w ∉ quote ∧ quote ≠ [] := by
    obtain ⟨x, hx, rfl | rfl⟩ := mem_quoteMarks.mp hq <;>
      simpa using fun h : w = x => hw.1 (h ▸ hx)
  -- the neutral mark is not part of the quote at the start
  obtain ⟨inner, rfl⟩ : ∃ inner, front = quote ++ inner := by
    rcases List.append_eq_append_iff.mp htext with ⟨mid, hmid, hrest⟩ | ⟨mid, hmid, hrest⟩
    · cases mid with
      | nil => exact ⟨[], by rw [hmid]; simp⟩
      | cons c mid =>
        have hc : w = c := (List.cons.inj hrest).1
        exact absurd (by rw [hmid, hc]; simp) hnot.1
    · exact ⟨mid, hmid⟩
  have hbody : body = inner ++ w :: (quote ++ (back ++ (l.body ++ lead))) := by
    have hinner : inner ++ w :: l.quoted = body ++ quote := by
      simpa using htext
    have hquoted : l.quoted = quote ++ (back ++ (l.body ++ lead)) ++ quote := by
      rw [Literal.quoted]
      nth_rewrite 1 [← hback]
      rw [← hlead]
      simp
    rw [hquoted] at hinner
    exact (List.append_inj' (by simpa using hinner.symm) rfl).1
  have hholds := holdsQuote_behind hw raw false hnot.2 inner (back ++ (l.body ++ lead))
  rw [← hbody] at hholds
  simp only [bodyValue?, hholds, ↓reduceIte, ite_self]

/-! ## Values -/

theorem trimEnd_eq (cs : List Char) : trimEnd cs = (trimStart cs.reverse).reverse := rfl

/-- Blanks around a text are cut off. -/
theorem trim_blank {a b cs : List Char} (ha : a.all isBlank = true) (hb : b.all isBlank = true)
    (hne : cs ≠ []) (hhead : ∀ c ∈ cs.head?, isBlank c = false)
    (hlast : ∀ c ∈ cs.getLast?, isBlank c = false) : trim (a ++ cs ++ b) = cs := by
  have hstart : trimStart (a ++ cs ++ b) = cs ++ b := by
    rw [List.append_assoc, trimStart_blank ha, trimStart_solid]
    rw [List.head?_append_of_ne_nil _ hne]
    exact hhead
  have hend : trimStart (cs ++ b).reverse = cs.reverse := by
    rw [List.reverse_append, trimStart_blank (by rw [List.all_reverse]; exact hb), trimStart_solid]
    rw [List.head?_reverse]
    exact hlast
  rw [trim, hstart, trimEnd_eq, hend, List.reverse_reverse]

namespace Literal

variable (l : Literal)

theorem quoted_ne_nil : l.quoted ≠ [] := by
  obtain ⟨x, -, h | h⟩ := mem_quoteMarks.mp l.isQuote <;> simp [quoted, h]

theorem isQuotationMark_head : ∀ c ∈ l.quoted.head?, IsQuotationMark c := by
  obtain ⟨x, hx, h | h⟩ := mem_quoteMarks.mp l.isQuote <;> simpa [quoted, h] using hx

theorem isQuotationMark_last : ∀ c ∈ l.quoted.getLast?, IsQuotationMark c := by
  obtain ⟨x, hx, h | h⟩ := mem_quoteMarks.mp l.isQuote <;>
    simpa [quoted, h, List.getLast?_append, List.getLast?_cons] using hx

/-- The mark of a raw literal is recognised. -/
theorem literalChars?_of_trim {cs rest : List Char} (h : trim cs = l.text ++ rest) :
    literalChars? cs = valueBetween? l.raw (l.quoted ++ rest) := by
  rw [literalChars?, h, text]
  cases hraw : l.raw with
  | true => rfl
  | false =>
    obtain ⟨c, cs, hquoted⟩ := List.exists_cons_of_ne_nil l.quoted_ne_nil
    have hmark : IsQuotationMark c := l.isQuotationMark_head c (by rw [hquoted]; rfl)
    rw [hquoted]
    rcases hmark with rfl | rfl <;> rfl

theorem text_ne_nil : l.text ≠ [] := by
  rw [text]
  split
  · exact List.cons_ne_nil _ _
  · exact l.quoted_ne_nil

theorem not_isBlank_head : ∀ c ∈ l.text.head?, isBlank c = false := by
  rw [text]
  split
  · rintro c ⟨⟩
    decide
  · exact fun c hc => (l.isQuotationMark_head c hc).not_isBlank

theorem not_isBlank_last : ∀ c ∈ l.text.getLast?, isBlank c = false := by
  rw [text]
  split
  · rw [List.getLast?_cons_of_ne_nil l.quoted_ne_nil]
    exact fun c hc => (l.isQuotationMark_last c hc).not_isBlank
  · exact fun c hc => (l.isQuotationMark_last c hc).not_isBlank

/-- Blanks around a text that starts with a literal and ends with a quotation mark are cut off. -/
theorem trim_text {before after rest : List Char} (hb : before.all isBlank = true)
    (ha : after.all isBlank = true) (hrest : ∀ c ∈ rest.getLast?, IsQuotationMark c) :
    trim (before ++ (l.text ++ rest) ++ after) = l.text ++ rest := by
  have hne : l.text ++ rest ≠ [] := by simp [l.text_ne_nil]
  refine trim_blank hb ha hne ?_ ?_
  · rw [List.head?_append_of_ne_nil _ l.text_ne_nil]
    exact l.not_isBlank_head
  · rw [List.getLast?_append]
    intro c hc
    rcases Option.or_eq_some_iff.mp hc with hc | ⟨-, hc⟩
    · exact (hrest c hc).not_isBlank
    · exact l.not_isBlank_last c hc

/-- A literal is read as its body. -/
theorem value_quoted (h : l.raw = true ∨ '$' ∉ l.body) :
    valueBetween? l.raw l.quoted = some l.body := by
  have hdollar : (!l.raw && l.body.contains '$') = false := by
    rcases h with h | h
    · simp [h]
    · simp [h]
  rw [valueBetween?, l.unquote?_quoted, Option.bind_some]
  simp only [bodyValue?, hdollar, l.isBody.holdsQuote_eq_false l.isQuote, Bool.false_eq_true, ↓reduceIte]

end Literal

/-- The text of literals with blanks between them: a first one, and the others, each with the blanks
before it. -/
def literalsText (first : Literal) (more : List (List Char × Literal)) : List Char :=
  first.text ++ more.flatMap fun m => m.1 ++ m.2.text

/-- Several literals end with one behind a neutral mark, the last blank or the `r` of a raw one. -/
theorem literalsText_eq (first : Literal) {more : List (List Char × Literal)} (hne : more ≠ [])
    (hgaps : ∀ m ∈ more, m.1 ≠ [] ∧ m.1.all isBlank = true) :
    ∃ (mid : List Char) (w : Char) (last : Literal), IsNeutral w ∧
      literalsText first more = first.text ++ (mid ++ w :: last.quoted) := by
  obtain ⟨init, ⟨gap, last⟩, rfl⟩ := (List.eq_nil_or_concat' more).resolve_left hne
  obtain ⟨hgap, hblank⟩ := hgaps (gap, last) (by simp)
  obtain ⟨gap', w, rfl⟩ := (List.eq_nil_or_concat' gap).resolve_left hgap
  have hw : isBlank w = true := List.all_eq_true.mp hblank w (by simp)
  let mid := init.flatMap (fun m => m.1 ++ m.2.text) ++ gap'
  cases hraw : last.raw with
  | false =>
    refine ⟨mid, w, last, isNeutral_of_isBlank hw, ?_⟩
    simp [literalsText, mid, Literal.text, hraw]
  | true =>
    refine ⟨mid ++ [w], 'r', last, isNeutral_r, ?_⟩
    simp [literalsText, mid, Literal.text, hraw]

/-- **Literals are unquoted, and never joined.** With any blanks around it, a literal that is raw or
holds no `$` is read as its body, character by character as it is written. Two literals or more with
blanks between them have no value. -/
theorem literalValue?_literals (l : Literal) (before after : List Char)
    (hb : before.all isBlank = true) (ha : after.all isBlank = true) :
    (l.raw = true ∨ '$' ∉ l.body →
      literalValue? (String.ofList (before ++ l.text ++ after)) = some (String.ofList l.body)) ∧
    ∀ more : List (List Char × Literal), more ≠ [] → (∀ m ∈ more, m.1 ≠ [] ∧ m.1.all isBlank = true) →
      literalValue? (String.ofList (before ++ literalsText l more ++ after)) = none := by
  constructor
  · intro hbody
    have hlast : ∀ c ∈ ([] : List Char).getLast?, IsQuotationMark c := by simp
    have htrim : trim (before ++ l.text ++ after) = l.text ++ [] := by
      simpa using l.trim_text hb ha hlast
    rw [literalValue?, String.toList_ofList, l.literalChars?_of_trim htrim, List.append_nil,
      l.value_quoted hbody, Option.map_some]
  · intro more hne hgaps
    obtain ⟨mid, w, last, hw, htext⟩ := literalsText_eq l hne hgaps
    have hlast : ∀ c ∈ (mid ++ w :: last.quoted).getLast?, IsQuotationMark c := by
      rw [List.getLast?_append_of_ne_nil _ (List.cons_ne_nil _ _),
        List.getLast?_cons_of_ne_nil last.quoted_ne_nil]
      exact last.isQuotationMark_last
    rw [literalValue?, String.toList_ofList, htext, l.literalChars?_of_trim (l.trim_text hb ha hlast),
      ← List.append_assoc, last.value_behind hw, Option.map_none]

/-- A literal with an escaped backslash and an escaped quote. -/
def escapedLiteral : Literal where
  raw := false
  quote := ['\'']
  body := "\\\\\\'".toList
  isQuote := by decide
  isBody := .escape '\\' rfl (.escape '\'' rfl .nil)

/-- A raw literal with a quotation mark in its body and a backslash at the end of it. -/
def rawLiteral : Literal where
  raw := true
  quote := ['\'', '\'', '\'']
  body := "a'b\\".toList
  isQuote := by decide
  isBody := .char (Or.inl rfl) (by decide) (.char (Or.inl rfl) (by decide)
    (.char (Or.inl rfl) (by decide) (.char (Or.inl rfl) (by decide) .nil)))

theorem literalValue?_literals_sample :
    literalValue? " '\\\\\\''\n" = some "\\\\\\'" ∧
      literalValue? "r'''a'b\\'''" = some "a'b\\" ∧
      literalValue? "'\\\\\\'' \tr'''a'b\\'''" = none := by
  have hgap : ∀ m ∈ [([' ', '\t'], rawLiteral)], m.1 ≠ [] ∧ m.1.all isBlank = true := by
    intro m hm
    rw [List.mem_singleton.mp hm]
    decide
  refine ⟨?_, ?_, ?_⟩
  · exact (literalValue?_literals escapedLiteral [' '] ['\n'] rfl rfl).1 (Or.inr (by decide))
  · exact (literalValue?_literals rawLiteral [] [] rfl rfl).1 (Or.inl rfl)
  · exact (literalValue?_literals escapedLiteral [] [] rfl rfl).2 [([' ', '\t'], rawLiteral)]
      (List.cons_ne_nil _ _) hgap

end DartSurvey.Dart
