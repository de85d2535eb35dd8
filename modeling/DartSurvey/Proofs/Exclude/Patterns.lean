import DartSurvey.Exclude.Rule
import DartSurvey.Proofs.Disk.PathText

/-!
# Patterns and what they say

- The row of a pattern holds the rows of its endings (`drop_row_cons`), so a pattern of plain characters
  matches by comparing one character after the other, and matches itself only (`isMatch_map_char`).
- What a pattern says beside its text: whether it is for folders only, and whether it is anchored
  (`PatternParts`). The rule of a pattern is made of these (`ofPattern?_eq`); one whose text is empty says
  nothing (`not_isMatch_of_text_nil`).
- The rule of a pattern without wildcards matches a path that is its text, or has it among its components
  (`isMatch_literal`).
-/

namespace DartSurvey.Exclude

/-! ## Patterns of plain characters -/

theorem drop_stepRow (c : Char) (p : Piece) (g : Glob) (row : List Bool) :
    (stepRow c (p :: g) row).drop 1 = stepRow c g (row.drop 1) := rfl

/-- Behind its first entry, a row is that of the pattern without its first piece. -/
theorem drop_row_cons (p : Piece) (g : Glob) (text : List Char) :
    (Glob.row (p :: g) text).drop 1 = Glob.row g text := by
  induction text with
  | nil => rfl
  | cons c cs ih => rw [Glob.row, drop_stepRow, ih, Glob.row]

theorem isMatch_nil (text : List Char) : Glob.isMatch [] text = text.isEmpty := by
  cases text <;> rfl

theorem isMatch_char_nil (d : Char) (g : Glob) : Glob.isMatch (.char d :: g) [] = false := rfl

/-- A character of a pattern is compared with the first of the text. -/
theorem isMatch_char_cons (d : Char) (g : Glob) (c : Char) (cs : List Char) :
    Glob.isMatch (.char d :: g) (c :: cs) = (c == d && Glob.isMatch g cs) := by
  have hstep : Glob.isMatch (.char d :: g) (c :: cs)
      = (c == d && ((Glob.row (.char d :: g) cs).drop 1).headD false) := rfl
  rw [hstep, drop_row_cons]
  rfl

/-- Plain characters match themselves only. -/
theorem isMatch_map_char (cs text : List Char) : Glob.isMatch (cs.map .char) text = true ↔ text = cs := by
  induction cs generalizing text with
  | nil => rw [List.map_nil, isMatch_nil, List.isEmpty_iff]
  | cons d cs ih =>
    cases text with
    | nil => simp [isMatch_char_nil]
    | cons c text => simp [isMatch_char_cons, ih]

/-- Whether a character has a special meaning in patterns. -/
def isWildcard (c : Char) : Bool := c == '*' || c == '?' || c == '['

/-- Without wildcards a pattern consists of plain characters. -/
theorem ofChars_literal {cs : List Char} (h : ∀ c ∈ cs, isWildcard c = false) :
    Glob.ofChars cs = cs.map .char := by
  induction cs with
  | nil => simp [Glob.ofChars]
  | cons c cs ih =>
    have hc := h c List.mem_cons_self
    simp only [isWildcard, Bool.or_eq_false_iff, beq_eq_false_iff_ne] at hc
    obtain ⟨⟨hstar, hmark⟩, hbracket⟩ := hc
    rw [Glob.ofChars, ih fun x hx => h x (List.mem_cons_of_mem c hx), List.map_cons]
    · exact hstar
    · exact hmark
    · exact hbracket

/-! ## What a pattern says -/

/-- What a pattern says: whether it is for folders only, whether it is anchored, and its text. -/
structure PatternParts where
  foldersOnly : Bool
  anchored : Bool
  text : List Char
deriving DecidableEq

/-- The parts of a pattern: trimmed, it is for folders only if it ends in a slash; what is left without that
slash is anchored if it starts with one; what is left without that one too is the text. -/
def PatternParts.of (pattern : String) : PatternParts :=
  let trimmed := Text.trim pattern.toList
  let foldersOnly := decide (['/'] <:+ trimmed)
  let left := if foldersOnly then trimmed.dropLast else trimmed
  let anchored := decide (['/'] <+: left)
  ⟨foldersOnly, anchored, if anchored then left.tail else left⟩

/-- Whether a pattern is matched with whole paths, and not with their components. -/
def PatternParts.wholePath (p : PatternParts) : Bool := p.anchored || p.text.contains '/'

/-- The rule of a pattern is made of its parts. -/
theorem ofPattern?_eq (pattern : String) :
    Rule.ofPattern? pattern =
      if Text.trim pattern.toList = [] then none
      else some ⟨String.ofList (PatternParts.of pattern).text, (PatternParts.of pattern).foldersOnly,
        (PatternParts.of pattern).anchored, (PatternParts.of pattern).text.contains '/'⟩ := by
  have hlast : ∀ cs : List Char, (cs.getLast? == some '/') = decide (['/'] <:+ cs) := by
    intro cs
    rw [Bool.eq_iff_iff, beq_iff_eq, decide_eq_true_eq, List.singleton_suffix_iff_getLast?_eq_some]
  have hhead : ∀ cs : List Char, (cs.head? == some '/') = decide (['/'] <+: cs) := by
    intro cs
    rw [Bool.eq_iff_iff, beq_iff_eq, decide_eq_true_eq, List.singleton_prefix_iff_head?_eq_some]
  unfold Rule.ofPattern? PatternParts.of
  cases Text.trim pattern.toList with
  | nil => rfl
  | cons c cs => simp only [hlast, hhead, List.drop_one, reduceCtorEq, ↓reduceIte]

theorem mem_trim_of_mem_text {pattern : String} {c : Char} (h : c ∈ (PatternParts.of pattern).text) :
    c ∈ Text.trim pattern.toList := by
  have hleft : ∀ (b : Bool) (cs : List Char), c ∈ (if b then cs.dropLast else cs) → c ∈ cs := by
    intro b cs hc
    cases b with
    | true => exact List.dropLast_subset cs hc
    | false => exact hc
  have htext : ∀ (b : Bool) (cs : List Char), c ∈ (if b then cs.tail else cs) → c ∈ cs := by
    intro b cs hc
    cases b with
    | true => exact List.mem_of_mem_tail hc
    | false => exact hc
  exact hleft _ _ (htext _ _ h)

theorem rulesOf_append (patterns more : List String) :
    rulesOf (patterns ++ more) = rulesOf patterns ++ rulesOf more := List.filterMap_append

/-- Whether some rule of patterns matches is a question about each pattern. -/
theorem excludes_rulesOf_iff (patterns : List String) (path : String) (isDirectory : Bool) :
    excludes (rulesOf patterns) path isDirectory = true ↔
      ∃ p ∈ patterns, ∃ r, Rule.ofPattern? p = some r ∧ r.isMatch path isDirectory = true := by
  simp only [excludes, rulesOf, List.any_eq_true, List.mem_filterMap]
  constructor
  · rintro ⟨r, ⟨p, hp, hr⟩, hmatch⟩
    exact ⟨p, hp, r, hr, hmatch⟩
  · rintro ⟨p, hp, r, hr, hmatch⟩
    exact ⟨r, ⟨p, hp, hr⟩, hmatch⟩

/-- A pattern whose text is empty matches nothing. -/
theorem not_isMatch_of_text_nil {pattern : String} {r : Rule} (h : (PatternParts.of pattern).text = [])
    (hr : Rule.ofPattern? pattern = some r) (path : String) (isDirectory : Bool) :
    r.isMatch path isDirectory = false := by
  rw [ofPattern?_eq, h] at hr
  split at hr
  · cases hr
  · cases hr
    rfl

/-- Lists of patterns match alike if they have the same patterns, but for those whose text is empty. -/
theorem excludes_rulesOf_congr {patterns patterns' : List String}
    (h : ∀ p, (PatternParts.of p).text ≠ [] → (p ∈ patterns ↔ p ∈ patterns')) (path : String)
    (isDirectory : Bool) :
    excludes (rulesOf patterns) path isDirectory = excludes (rulesOf patterns') path isDirectory := by
  have htells : ∀ {p : String} {r : Rule}, Rule.ofPattern? p = some r → r.isMatch path isDirectory = true →
      (PatternParts.of p).text ≠ [] := by
    intro p r hr hmatch htext
    rw [not_isMatch_of_text_nil htext hr] at hmatch
    cases hmatch
  rw [Bool.eq_iff_iff, excludes_rulesOf_iff, excludes_rulesOf_iff]
  constructor
  · rintro ⟨p, hp, r, hr, hmatch⟩
    exact ⟨p, (h p (htells hr hmatch)).mp hp, r, hr, hmatch⟩
  · rintro ⟨p, hp, r, hr, hmatch⟩
    exact ⟨p, (h p (htells hr hmatch)).mpr hp, r, hr, hmatch⟩

-- blank patterns and slashes alone have no text
example : ["", " ", "/", "//"].map (fun p => (PatternParts.of p).text) = [[], [], [], []] := by decide

/-! ## Patterns without wildcards -/

/-- That a pattern has no wildcards when it is trimmed. -/
def IsLiteral (pattern : String) : Prop := ∀ c ∈ Text.trim pattern.toList, isWildcard c = false

/-- That a pattern without wildcards matches a path: it has a text, is not for folders only unless the path
leads to one, and the text is the whole path or one of its components. -/
def PatternParts.Matches (p : PatternParts) (path : List Char) (isDirectory : Bool) : Prop :=
  p.text ≠ [] ∧ (p.foldersOnly = true → isDirectory = true) ∧
    if p.wholePath then path = p.text else p.text ∈ Disk.Path.pieces path

theorem splitAt_slash (cs : List Char) : splitAt '/' cs = Disk.Path.pieces cs := by
  induction cs with
  | nil => rfl
  | cons c cs ih =>
    obtain ⟨p, ps, hpieces⟩ := List.exists_cons_of_ne_nil (Disk.Path.pieces_ne_nil cs)
    simp only [splitAt, Disk.Path.pieces, ih, hpieces]

/-- The rule of a pattern without wildcards matches as the parts of the pattern say. -/
theorem isMatch_literal {pattern : String} {r : Rule} (h : IsLiteral pattern)
    (hr : Rule.ofPattern? pattern = some r) (path : String) (isDirectory : Bool) :
    r.isMatch path isDirectory = true ↔ (PatternParts.of pattern).Matches path.toList isDirectory := by
  have hglob : Glob.ofChars (PatternParts.of pattern).text = (PatternParts.of pattern).text.map .char :=
    ofChars_literal fun c hc => h c (mem_trim_of_mem_text hc)
  rw [ofPattern?_eq] at hr
  split at hr
  · cases hr
  · cases hr
    generalize PatternParts.of pattern = p at hglob ⊢
    obtain ⟨foldersOnly, anchored, text⟩ := p
    simp only [Rule.isMatch, PatternParts.Matches, PatternParts.wholePath, String.toList_ofList, hglob,
      splitAt_slash]
    by_cases htext : text = []
    · simp [htext]
    · have hempty : (String.ofList text == "") = false := by
        simpa using htext
      cases foldersOnly <;> cases isDirectory <;> simp [hempty, htext, isMatch_map_char]

/-- What the rules of one pattern without wildcards exclude. -/
theorem excludes_literal {pattern : String} (h : IsLiteral pattern) (path : String) (isDirectory : Bool) :
    excludes (rulesOf [pattern]) path isDirectory = true ↔
      (PatternParts.of pattern).Matches path.toList isDirectory := by
  simp only [excludes_rulesOf_iff, List.mem_singleton, exists_eq_left]
  constructor
  · rintro ⟨r, hr, hmatch⟩
    exact (isMatch_literal h hr path isDirectory).mp hmatch
  · intro hmatch
    cases hr : Rule.ofPattern? pattern with
    | some r => exact ⟨r, rfl, (isMatch_literal h hr path isDirectory).mpr hmatch⟩
    | none =>
      -- a blank pattern has no text
      refine absurd ?_ hmatch.1
      rw [ofPattern?_eq] at hr
      split at hr
      · rename_i htrim
        simp [PatternParts.of, htrim]
      · cases hr

end DartSurvey.Exclude
