/-! # Wildcard patterns

`*` matches any run of characters, `?` any one character, and a bracketed set one character in it, or one
not in it after `!`; the slash and the line feed have no special place. A bracket that is never closed
stands for itself. In a set, a hyphen between two characters makes a range, unless it comes first, last
or right after a range; a range that runs backwards is left out with both its ends. Where leaving it out
brings `!` to the start of the set, that negates the set too, and a hyphen right after it is a character.
-/

namespace DartSurvey.Exclude

/-- One piece of a pattern. -/
inductive Piece where
  /-- Any run of characters. -/
  | many
  /-- Any one character. -/
  | one
  | char (c : Char)
  /-- One character in a range of the list, or, when negated, in none of them. -/
  | set (negated : Bool) (ranges : List (Char × Char))
deriving DecidableEq

/-- A pattern. -/
abbrev Glob := List Piece

/-- Whether one character matches a piece that stands for one character. -/
def Piece.accepts (c : Char) : Piece → Bool
  | .many => false
  | .one => true
  | .char d => c == d
  | .set negated ranges => (ranges.any fun r => r.1 ≤ c && c ≤ r.2) != negated

/-! ## Matching

The text is read from its end. For what has been read, a row says of the pattern and of each of its
shorter endings whether it matches, so the time is the product of the two lengths.
-/

/-- The row of the empty text: an ending matches if it consists of `*` alone. -/
def endRow : Glob → List Bool
  | [] => [true]
  | p :: rest =>
    let row := endRow rest
    (p == .many && row.headD false) :: row

/-- The row of a text from its first character and the row of what follows it. -/
def stepRow (c : Char) : Glob → List Bool → List Bool
  | [], _ => [false]
  | p :: rest, old =>
    let row := stepRow c rest (old.drop 1)
    (match p with
      | .many => row.headD false || old.headD false
      | p => p.accepts c && (old.drop 1).headD false) :: row

/-- The row of a text. -/
def Glob.row (g : Glob) : List Char → List Bool
  | [] => endRow g
  | c :: cs => stepRow c g (g.row cs)

/-- Whether a whole text matches a pattern. -/
def Glob.isMatch (g : Glob) (cs : List Char) : Bool := (g.row cs).headD false

/-! ## Sets -/

/-- Cuts the inside of a set at the hyphens that make ranges: each chunk but the last ends with the start
of a range, and each but the first begins with its end. A hyphen counts only when at least `skip`
characters stand before it in its chunk. -/
def chunks (skip : Nat) (chunk : List Char) : List Char → List (List Char)
  | [] => [chunk.reverse]
  | c :: cs =>
    if c == '-' && skip ≤ chunk.length then chunk.reverse :: chunks 2 [] cs
    else chunks skip (c :: chunk) cs

/-- A hyphen at the end of a set belongs to the chunk before it. -/
def closeChunks : List (List Char) → List (List Char)
  | [] => []
  | [last] => [last]
  | [a, []] => [a ++ ['-']]
  | a :: b :: rest => a :: closeChunks (b :: rest)

/-- Joins two chunks whose range runs backwards, without its ends. -/
def joinBackward : List (List Char) → List (List Char)
  | [] => []
  | a :: rest =>
    match joinBackward rest with
    | [] => [a]
    | b :: rest =>
      match a.getLast?, b.head? with
      | some lo, some hi => if hi < lo then (a.dropLast ++ b.drop 1) :: rest else a :: b :: rest
      | _, _ => a :: b :: rest

/-- The characters and ranges of a list of chunks; `low` is the start of the range that the first chunk
ends. -/
def rangesOf (low : Option Char) : List (List Char) → List (Char × Char)
  | [] => []
  | chunk :: rest =>
    let (ended, body) := match low, chunk with
      | some lo, hi :: body => ([(lo, hi)], body)
      | _, body => ([], body)
    match rest with
    | [] => ended ++ body.map fun c => (c, c)
    | _ => ended ++ (body.dropLast.map fun c => (c, c)) ++ rangesOf body.getLast? rest

/-- The piece for a set, from the characters between the brackets. -/
def setOf (inside : List Char) : Piece :=
  let skip := if inside.head? == some '!' then 2 else 1
  match joinBackward (closeChunks (chunks skip [] inside)) with
  | ['!'] :: next :: rest => .set true (('-', '-') :: rangesOf none (next :: rest))
  | ('!' :: first) :: rest => .set true (rangesOf none (first :: rest))
  | parts => .set false (rangesOf none parts)

/-- The inside of a set and what follows its closing bracket, from the text after the opening one. A
closing bracket at the very start, or right after `!`, is one of the characters. -/
def setEnd (cs : List Char) : Option (List Char × List Char) :=
  let (start, rest) := match cs with
    | '!' :: ']' :: rest => (['!', ']'], rest)
    | '!' :: rest => (['!'], rest)
    | ']' :: rest => ([']'], rest)
    | rest => ([], rest)
  match rest.dropWhile (· != ']') with
  | _ :: after => some (start ++ rest.takeWhile (· != ']'), after)
  | [] => none

theorem length_setEnd {cs inside rest : List Char} (h : setEnd cs = some (inside, rest)) :
    rest.length < cs.length := by
  have key : ∀ (l : List Char) (d : Char) (ds : List Char),
      l.dropWhile (· != ']') = d :: ds → ds.length < l.length := by
    intro l d ds hl
    have := (List.dropWhile_sublist (l := l) (· != ']')).length_le
    rw [hl] at this
    simp at this
    omega
  simp only [setEnd] at h
  split at h
  case h_1 hd =>
    simp only [Option.some.injEq, Prod.mk.injEq] at h
    rw [← h.2]
    have := key _ _ _ hd
    revert this
    split <;> simp <;> omega
  case h_2 => simp at h

/-- The pieces of a pattern. -/
def Glob.ofChars : List Char → Glob
  | [] => []
  | '*' :: cs => .many :: Glob.ofChars cs
  | '?' :: cs => .one :: Glob.ofChars cs
  | '[' :: cs =>
    match _h : setEnd cs with
    | some (inside, rest) => setOf inside :: Glob.ofChars rest
    | none => .char '[' :: Glob.ofChars cs
  | c :: cs => .char c :: Glob.ofChars cs
termination_by cs => cs.length
decreasing_by
  · simp
  · simp
  · have := length_setEnd _h; simp; omega
  · simp
  · simp

/-- Whether a whole text matches a pattern. -/
def matchesPattern (pattern text : String) : Bool :=
  Glob.isMatch (Glob.ofChars pattern.toList) text.toList

end DartSurvey.Exclude
