import DartSurvey.Json.Parser
import DartSurvey.Json.Printer

/-!
# Written values are read back

- A character is read back from its escape, one above U+FFFF from a pair of escapes
  (`string_charText`), and so is a text from between its quotes (`string_flatMap_charText`).
- A value without numbers, in which no object has a key twice (`Plain`), is read back from the text
  it is written as, whatever follows (`value_chars`). The depth that the reader needs is at most the
  length of the text.
- What is written is of printable ASCII characters (`isAscii_chars`).
-/

namespace DartSurvey.Json

/-! ## Texts -/

theorem hexValue?_hexDigit : ∀ n < 16, hexValue? (Text.Utf8.hexDigit n) = some n := by
  decide

/-- The four digits of a 16-bit unit are read back. -/
theorem unit?_hexDigits {n : Nat} (h : n < 0x10000) :
    ∃ a b c d, Text.hexDigits 4 n = [a, b, c, d] ∧ unit? a b c d = some n := by
  refine ⟨_, _, _, _, rfl, ?_⟩
  simp only [unit?, hexValue?_hexDigit _ (Nat.mod_lt _ (show 0 < 16 by decide)), Option.pure_def,
    Option.bind_eq_bind, Option.bind_some, Option.some.injEq]
  omega

theorem string_unitEscape {n : Nat} (h : n < 0x10000) (hs : n < 0xd800 ∨ 0xe000 ≤ n) (rest : List Char) :
    string (unitEscape n ++ rest) = (string rest).map fun (s, rest) => (Char.ofNat n :: s, rest) := by
  obtain ⟨a, b, c, d, hd, hu⟩ := unit?_hexDigits h
  rw [unitEscape, hd]
  simp only [List.cons_append, List.nil_append, string, hu]
  rw [if_neg (by omega), if_neg (by omega)]

/-- Two escapes of the halves of a surrogate pair are read as one character. -/
theorem string_pairEscape {n : Nat} (h : n < 0x100000) (rest : List Char) :
    string (unitEscape (0xd800 + n / 0x400) ++ unitEscape (0xdc00 + n % 0x400) ++ rest)
      = (string rest).map fun (s, rest) => (Char.ofNat (0x10000 + n) :: s, rest) := by
  obtain ⟨a, b, c, d, hd, hu⟩ := unit?_hexDigits (show 0xd800 + n / 0x400 < 0x10000 by omega)
  obtain ⟨a', b', c', d', hd', hu'⟩ := unit?_hexDigits (show 0xdc00 + n % 0x400 < 0x10000 by omega)
  rw [unitEscape, unitEscape, hd, hd']
  simp only [List.cons_append, List.nil_append, string, hu, hu']
  rw [if_pos (by omega), if_pos (by omega)]
  have hn : 0x10000 + (0xd800 + n / 0x400 - 0xd800) * 0x400 + (0xdc00 + n % 0x400 - 0xdc00)
      = 0x10000 + n := by omega
  rw [hn]

/-- A character that is none of those with a short escape stands for itself. -/
theorem string_cons {c : Char} (hq : c ≠ '"') (hb : c ≠ '\\') (h : 0x20 ≤ c.toNat) (rest : List Char) :
    string (c :: rest) = (string rest).map fun (s, rest) => (c :: s, rest) := by
  rw [string.eq_def]
  split
  · simp_all
  · simp_all
  · simp_all
  · simp_all
  · rename_i heq
    cases heq
    have hplain : ¬(c == '\\' || c.toNat < 0x20) = true := by simp [hb, h]
    rw [if_neg hplain]

theorem string_shortEscape {d e : Char} (hu : d ≠ 'u') (he : shortEscape? d = some e) (rest : List Char) :
    string (['\\', d] ++ rest) = (string rest).map fun (s, rest) => (e :: s, rest) := by
  rw [List.cons_append, List.cons_append, List.nil_append, string.eq_def]
  split
  · rename_i heq
    cases heq
  · rename_i heq
    cases heq
  · rename_i heq
    cases heq
    exact absurd rfl hu
  · rename_i heq
    cases heq
    simp only [he]
  · rename_i hne heq
    cases heq
    exact absurd rfl (hne d rest rfl)

/-- A character is read back from how it stands between quotes. -/
theorem string_charText (c : Char) (rest : List Char) :
    string (charText c ++ rest) = (string rest).map fun (s, rest) => (c :: s, rest) := by
  have hvalid : c.toNat < 0xd800 ∨ 0xdfff < c.toNat ∧ c.toNat < 0x110000 := c.valid
  unfold charText
  iterate 7
    split
    · rename_i h
      rw [beq_iff_eq.mp h]
      exact string_shortEscape (by decide) rfl rest
  rename_i hquote hback _ _ _ _ _
  split
  · rename_i h
    simp only [Bool.and_eq_true, decide_eq_true_eq] at h
    exact string_cons (by simpa using hquote) (by simpa using hback) h.1 rest
  · split
    · rename_i h
      rw [string_unitEscape h (by omega), Char.ofNat_toNat]
    · rename_i h
      have hsum : 0x10000 + (c.toNat - 0x10000) = c.toNat := by omega
      have hpair := string_pairEscape (show c.toNat - 0x10000 < 0x100000 by omega) rest
      rw [hsum, Char.ofNat_toNat] at hpair
      exact hpair

/-- A text is read back from between its quotes. -/
theorem string_flatMap_charText (cs rest : List Char) :
    string (cs.flatMap charText ++ '"' :: rest) = some (cs, rest) := by
  induction cs with
  | nil => rfl
  | cons c cs ih =>
    rw [List.flatMap_cons, List.append_assoc, string_charText, ih]
    rfl

/-! ## Values -/

mutual

/-- A value without numbers in which no object has a key twice. -/
def Plain : Value → Prop
  | .null => True
  | .bool _ => True
  | .int _ => False
  | .real _ => False
  | .text _ => True
  | .list items => PlainItems items
  | .object entries => (entries.map Prod.fst).Nodup ∧ PlainEntries entries

/-- Items that are plain values. -/
def PlainItems : List Value → Prop
  | [] => True
  | v :: vs => Plain v ∧ PlainItems vs

/-- Entries whose values are plain. -/
def PlainEntries : List (String × Value) → Prop
  | [] => True
  | (_, v) :: rest => Plain v ∧ PlainEntries rest

end

theorem separated_singleton (p : List Char) : separated [p] = p := by
  simp [separated]

theorem separated_cons_cons (p q : List Char) (ps : List (List Char)) :
    separated (p :: q :: ps) = p ++ ',' :: ' ' :: separated (q :: ps) := by
  simp [separated]

/-- A blank before a value does not matter. -/
theorem value_blank (depth : Nat) (cs : List Char) : value depth (' ' :: cs) = value depth cs := by
  cases depth with
  | zero => rfl
  | succ depth =>
    have hskip : skipBlanks (' ' :: cs) = skipBlanks cs := rfl
    rw [value, value, hskip]

theorem entries_blank (depth : Nat) (cs : List Char) : entries depth (' ' :: cs) = entries depth cs := by
  cases depth with
  | zero => rfl
  | succ depth =>
    have hskip : skipBlanks (' ' :: cs) = skipBlanks cs := rfl
    rw [entries, entries, hskip]

theorem items_blank (depth : Nat) (cs : List Char) : items depth (' ' :: cs) = items depth cs := by
  cases depth with
  | zero => rfl
  | succ depth => rw [items, items, value_blank]

theorem skipBlanks_stringText (s : String) (rest : List Char) :
    skipBlanks (stringText s ++ rest) = '"' :: (s.toList.flatMap charText ++ '"' :: rest) := by
  simp [stringText, skipBlanks]

/-- A text in quotes is read back. -/
theorem value_stringText (depth : Nat) (s : String) (rest : List Char) :
    value (depth + 1) (stringText s ++ rest) = some (.text s, rest) := by
  have hread := string_flatMap_charText s.toList rest
  rw [value, skipBlanks_stringText]
  simp [hread]

/-- A written value starts with a character that is neither a blank nor closes a list. -/
theorem chars_head {v : Value} (h : Plain v) :
    ∃ c cs, chars v = c :: cs ∧ c ≠ ']' ∧ ∀ more, skipBlanks (c :: more) = c :: more := by
  cases v with
  | null => exact ⟨'n', ['u', 'l', 'l'], by decide, by decide, fun _ => rfl⟩
  | bool b =>
    cases b with
    | true => exact ⟨'t', ['r', 'u', 'e'], by decide, by decide, fun _ => rfl⟩
    | false => exact ⟨'f', ['a', 'l', 's', 'e'], by decide, by decide, fun _ => rfl⟩
  | int n => exact absurd h id
  | real x => exact absurd h id
  | text s => exact ⟨'"', _, rfl, by decide, fun _ => rfl⟩
  | list items => exact ⟨'[', _, rfl, by decide, fun _ => rfl⟩
  | object entries => exact ⟨'{', _, rfl, by decide, fun _ => rfl⟩

theorem put_of_not_mem {key : String} {acc : List (String × Value)} (h : key ∉ acc.map Prod.fst)
    (v : Value) :
    put key v acc = acc ++ [(key, v)] := by
  induction acc with
  | nil => rfl
  | cons e acc ih =>
    obtain ⟨k, w⟩ := e
    rw [List.map_cons, List.mem_cons, not_or] at h
    have hne : ¬(k == key) = true := fun hk => h.1 (beq_iff_eq.mp hk).symm
    rw [put, if_neg hne, ih h.2, List.cons_append]

/-- Entries under keys that are not there yet are added behind the others. -/
theorem foldl_put {es : List (String × Value)} (acc : List (String × Value))
    (h : ((acc ++ es).map Prod.fst).Nodup) :
    es.foldl (fun acc e => put e.1 e.2 acc) acc = acc ++ es := by
  induction es generalizing acc with
  | nil => simp
  | cons e es ih =>
    have hnew : e.1 ∉ acc.map Prod.fst := by
      rw [List.map_append, List.nodup_append] at h
      exact fun hmem => h.2.2 _ hmem _ (by simp) rfl
    rw [List.foldl_cons, put_of_not_mem hnew, ih _ (by simpa using h), List.append_assoc,
      List.singleton_append]

/-- What stands in brackets is read as items, unless the bracket is closed at once. -/
theorem value_bracket {c : Char} {more : List Char} (hclose : c ≠ ']')
    (hskip : skipBlanks (c :: more) = c :: more)
    (depth : Nat) :
    value (depth + 1) ('[' :: c :: more)
      = (items depth (c :: more)).map fun (vs, rest) => (.list vs, rest) := by
  have hopen : skipBlanks ('[' :: c :: more) = '[' :: c :: more := rfl
  rw [value, hopen]
  simp only [hskip]
  split
  · rename_i heq
    cases heq
    exact absurd rfl hclose
  · rfl

/-- What stands in braces is read as entries, if it starts with a key. -/
theorem value_brace (depth : Nat) (more : List Char) :
    value (depth + 1) ('{' :: '"' :: more) = (entries depth ('"' :: more)).map fun (es, rest) =>
      (.object (es.foldl (fun acc e => put e.1 e.2 acc) []), rest) := by
  rw [value]
  rfl

theorem items_comma {depth : Nat} {cs rest : List Char} {v : Value}
    (h : value depth cs = some (v, ',' :: rest)) :
    items (depth + 1) cs = (items depth rest).map fun (vs, rest) => (v :: vs, rest) := by
  rw [items, h]
  rfl

theorem items_close {depth : Nat} {cs rest : List Char} {v : Value}
    (h : value depth cs = some (v, ']' :: rest)) :
    items (depth + 1) cs = some ([v], rest) := by
  rw [items, h]
  rfl

theorem entries_comma {depth : Nat} {cs rest : List Char} {v : Value} (key : String)
    (h : value depth cs = some (v, ',' :: rest)) :
    entries (depth + 1) (stringText key ++ ':' :: ' ' :: cs)
      = (entries depth rest).map fun (es, rest) => ((key, v) :: es, rest) := by
  have hread := string_flatMap_charText key.toList (':' :: ' ' :: cs)
  have hcolon : skipBlanks (':' :: ' ' :: cs) = ':' :: ' ' :: cs := rfl
  rw [entries, skipBlanks_stringText]
  simp only [hread, hcolon, value_blank, h, String.ofList_toList]
  rfl

theorem entries_close {depth : Nat} {cs rest : List Char} {v : Value} (key : String)
    (h : value depth cs = some (v, '}' :: rest)) :
    entries (depth + 1) (stringText key ++ ':' :: ' ' :: cs) = some ([(key, v)], rest) := by
  have hread := string_flatMap_charText key.toList (':' :: ' ' :: cs)
  have hcolon : skipBlanks (':' :: ' ' :: cs) = ':' :: ' ' :: cs := rfl
  rw [entries, skipBlanks_stringText]
  simp only [hread, hcolon, value_blank, h, String.ofList_toList]
  rfl

mutual

/-- A plain value is read back from how it is written. -/
theorem value_chars :
    ∀ {v : Value}, Plain v → ∀ (depth : Nat) (rest : List Char), (chars v).length ≤ depth →
    value depth (chars v ++ rest) = some (v, rest)
  | v, hv, 0, rest, hlen => by
    obtain ⟨c, cs, hc, -⟩ := chars_head hv
    simp [hc] at hlen
  | .null, _, depth + 1, rest, _ => by
    rw [value]
    rfl
  | .bool true, _, depth + 1, rest, _ => by
    rw [value]
    rfl
  | .bool false, _, depth + 1, rest, _ => by
    rw [value]
    rfl
  | .int _, hv, _, _, _ => absurd hv id
  | .real _, hv, _, _, _ => absurd hv id
  | .text s, _, depth + 1, rest, _ => value_stringText depth s rest
  | .list [], _, depth + 1, rest, _ => by
    rw [value]
    rfl
  | .list (v :: vs), hv, depth + 1, rest, hlen => by
    have hread := items_chars hv depth rest (by
      simp only [chars, List.length_append, List.length_cons] at hlen
      omega)
    have htext : chars (.list (v :: vs)) ++ rest
        = '[' :: (separated (itemChars (v :: vs)) ++ ']' :: rest) := by
      simp [chars]
    obtain ⟨c, cs, hc, hclose, hskip⟩ := chars_head hv.1
    obtain ⟨more, hmore⟩ : ∃ more, separated (itemChars (v :: vs)) ++ ']' :: rest = c :: more := by
      cases vs <;> simp [itemChars, separated, hc]
    rw [htext, hmore, value_bracket hclose (hskip more), ← hmore, hread]
    rfl
  | .object [], _, depth + 1, rest, _ => by
    rw [value]
    rfl
  | .object (e :: es), hv, depth + 1, rest, hlen => by
    have hread := entries_chars hv.2 depth rest (by
      simp only [chars, List.length_append, List.length_cons] at hlen
      omega)
    have htext : chars (.object (e :: es)) ++ rest
        = '{' :: (separated (entryChars (e :: es)) ++ '}' :: rest) := by
      simp [chars]
    obtain ⟨more, hmore⟩ : ∃ more, separated (entryChars (e :: es)) ++ '}' :: rest = '"' :: more := by
      cases es <;> simp [entryChars, separated, stringText]
    rw [htext, hmore, value_brace, ← hmore, hread]
    simp only [Option.map_some, foldl_put [] hv.1, List.nil_append]

theorem items_chars :
    ∀ {v : Value} {vs : List Value}, PlainItems (v :: vs) → ∀ (depth : Nat) (rest : List Char),
    (separated (itemChars (v :: vs))).length < depth →
    items depth (separated (itemChars (v :: vs)) ++ ']' :: rest) = some (v :: vs, rest)
  | v, [], hv, depth + 1, rest, hlen => by
    rw [itemChars, itemChars, separated_singleton] at hlen ⊢
    exact items_close (value_chars hv.1 depth (']' :: rest) (by omega))
  | v, w :: vs, hv, depth + 1, rest, hlen => by
    have hsplit : separated (itemChars (v :: w :: vs))
        = chars v ++ ',' :: ' ' :: separated (itemChars (w :: vs)) := by
      simp only [itemChars, separated_cons_cons]
    rw [hsplit, List.length_append, List.length_cons, List.length_cons] at hlen
    have hfirst := value_chars hv.1 depth
      (',' :: ' ' :: (separated (itemChars (w :: vs)) ++ ']' :: rest)) (by omega)
    rw [hsplit, List.append_assoc, List.cons_append, List.cons_append, items_comma hfirst, items_blank,
      items_chars hv.2 depth rest (by omega)]
    rfl

theorem entries_chars : ∀ {e : String × Value} {es : List (String × Value)}, PlainEntries (e :: es) →
    ∀ (depth : Nat) (rest : List Char), (separated (entryChars (e :: es))).length < depth →
    entries depth (separated (entryChars (e :: es)) ++ '}' :: rest) = some (e :: es, rest)
  | (key, v), [], hv, depth + 1, rest, hlen => by
    have hone : separated (entryChars [(key, v)]) = stringText key ++ ':' :: ' ' :: chars v := by
      simp only [entryChars, separated_singleton]
    rw [hone, List.length_append, List.length_cons, List.length_cons] at hlen
    rw [hone, List.append_assoc, List.cons_append, List.cons_append]
    exact entries_close key (value_chars hv.1 depth ('}' :: rest) (by omega))
  | (key, v), e :: es, hv, depth + 1, rest, hlen => by
    have hsplit : separated (entryChars ((key, v) :: e :: es))
        = stringText key ++ ':' :: ' ' ::
            (chars v ++ ',' :: ' ' :: separated (entryChars (e :: es))) := by
      simp [entryChars, separated_cons_cons]
    rw [hsplit] at hlen
    simp only [List.length_append, List.length_cons] at hlen
    have hfirst := value_chars hv.1 depth
      (',' :: ' ' :: (separated (entryChars (e :: es)) ++ '}' :: rest)) (by omega)
    have hnext := entries_chars hv.2 depth rest (by omega)
    simp only [hsplit, List.append_assoc, List.cons_append]
    rw [entries_comma key hfirst, entries_blank, hnext]
    rfl

end

/-- A plain value is what its text stands for. -/
theorem parse_render {v : Value} (h : Plain v) : parse (render v) = some v := by
  have hread := value_chars h (2 * (chars v).length + 2) [] (by omega)
  rw [List.append_nil] at hread
  simp only [parse, render, String.toList_ofList, hread]
  rfl

/-! ## What is written -/

/-- A printable ASCII character. -/
def IsAscii (c : Char) : Prop := 0x20 ≤ c.toNat ∧ c.toNat ≤ 0x7f

instance : DecidablePred IsAscii := fun c => inferInstanceAs (Decidable (0x20 ≤ c.toNat ∧ c.toNat ≤ 0x7f))

theorem isAscii_of_all {cs : List Char} (h : (cs.all fun c => decide (IsAscii c)) = true) :
    ∀ c ∈ cs, IsAscii c := by
  simpa using h

theorem isAscii_hexDigits (width n : Nat) : ∀ c ∈ Text.hexDigits width n, IsAscii c := by
  have hdigit : ∀ n < 16, IsAscii (Text.Utf8.hexDigit n) := by decide
  induction width generalizing n with
  | zero => simp [Text.hexDigits]
  | succ width ih =>
    intro c hc
    rw [Text.hexDigits, List.mem_append, List.mem_singleton] at hc
    rcases hc with hc | rfl
    · exact ih (n / 16) c hc
    · exact hdigit _ (Nat.mod_lt _ (by decide))

theorem isAscii_unitEscape (n : Nat) : ∀ c ∈ unitEscape n, IsAscii c := by
  have hmark : IsAscii '\\' ∧ IsAscii 'u' := by decide
  intro c hc
  simp only [unitEscape, List.mem_cons] at hc
  rcases hc with rfl | rfl | hc
  · exact hmark.1
  · exact hmark.2
  · exact isAscii_hexDigits 4 n c hc

theorem isAscii_charText (c : Char) : ∀ d ∈ charText c, IsAscii d := by
  unfold charText
  iterate 7
    split
    · exact isAscii_of_all rfl
  split
  · rename_i h
    simp only [Bool.and_eq_true, decide_eq_true_eq] at h
    intro d hd
    rw [List.mem_singleton.mp hd]
    exact ⟨h.1, Nat.le_of_lt h.2⟩
  · split
    · exact isAscii_unitEscape _
    · intro d hd
      rcases List.mem_append.mp hd with hd | hd
      · exact isAscii_unitEscape _ d hd
      · exact isAscii_unitEscape _ d hd

theorem isAscii_stringText (s : String) : ∀ c ∈ stringText s, IsAscii c := by
  have hquote : IsAscii '"' := by decide
  intro c hc
  simp only [stringText, List.mem_cons, List.mem_append, List.mem_flatMap, List.not_mem_nil,
    or_false] at hc
  rcases hc with (rfl | ⟨d, _, hd⟩) | rfl
  · exact hquote
  · exact isAscii_charText d c hd
  · exact hquote

theorem isAscii_separated {parts : List (List Char)} (h : ∀ part ∈ parts, ∀ c ∈ part, IsAscii c) :
    ∀ c ∈ separated parts, IsAscii c := by
  have hcomma : IsAscii ',' ∧ IsAscii ' ' := by decide
  induction parts with
  | nil => simp [separated]
  | cons part parts ih =>
    have hpart := h part List.mem_cons_self
    have hparts := ih fun p hp => h p (List.mem_cons_of_mem part hp)
    cases parts with
    | nil =>
      rw [separated_singleton]
      exact hpart
    | cons next parts =>
      intro c hc
      rw [separated_cons_cons] at hc
      simp only [List.mem_append, List.mem_cons] at hc
      rcases hc with hc | rfl | rfl | hc
      · exact hpart c hc
      · exact hcomma.1
      · exact hcomma.2
      · exact hparts c hc

mutual

/-- A plain value is written in printable ASCII characters. -/
theorem isAscii_chars : ∀ {v : Value}, Plain v → ∀ c ∈ chars v, IsAscii c
  | .null, _ => isAscii_of_all rfl
  | .bool true, _ => isAscii_of_all rfl
  | .bool false, _ => isAscii_of_all rfl
  | .int _, hv => absurd hv id
  | .real _, hv => absurd hv id
  | .text s, _ => isAscii_stringText s
  | .list items, hv => by
    have hbracket : IsAscii '[' ∧ IsAscii ']' := by decide
    intro c hc
    simp only [chars, List.mem_cons, List.mem_append, List.not_mem_nil, or_false] at hc
    rcases hc with (rfl | hc) | rfl
    · exact hbracket.1
    · exact isAscii_separated (isAscii_itemChars hv) c hc
    · exact hbracket.2
  | .object entries, hv => by
    have hbrace : IsAscii '{' ∧ IsAscii '}' := by decide
    intro c hc
    simp only [chars, List.mem_cons, List.mem_append, List.not_mem_nil, or_false] at hc
    rcases hc with (rfl | hc) | rfl
    · exact hbrace.1
    · exact isAscii_separated (isAscii_entryChars hv.2) c hc
    · exact hbrace.2

theorem isAscii_itemChars :
    ∀ {vs : List Value}, PlainItems vs → ∀ part ∈ itemChars vs, ∀ c ∈ part, IsAscii c
  | [], _ => by simp [itemChars]
  | v :: vs, hv => by
    intro part hpart
    rcases List.mem_cons.mp hpart with rfl | hpart
    · exact isAscii_chars hv.1
    · exact isAscii_itemChars hv.2 part hpart

theorem isAscii_entryChars : ∀ {es : List (String × Value)}, PlainEntries es →
    ∀ part ∈ entryChars es, ∀ c ∈ part, IsAscii c
  | [], _ => by simp [entryChars]
  | (key, v) :: es, hv => by
    have hcolon : IsAscii ':' ∧ IsAscii ' ' := by decide
    intro part hpart
    rcases List.mem_cons.mp hpart with rfl | hpart
    · intro c hc
      simp only [List.mem_append, List.mem_cons] at hc
      rcases hc with hc | rfl | rfl | hc
      · exact isAscii_stringText key c hc
      · exact hcolon.1
      · exact hcolon.2
      · exact isAscii_chars hv.1 c hc
    · exact isAscii_entryChars hv.2 part hpart

end

end DartSurvey.Json
