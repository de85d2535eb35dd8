import DartSurvey.Proofs.Text.WholeChars
import DartSurvey.Proofs.Tree.Insertion

/-!
# The text of a range of bytes

Names, types and addresses are read from ranges of the bytes of a source. A range may end before it
starts, reach beyond the end of the source, or cut a character in two at either end.

- Every character of a text has an offset (`placed`), and a range holds the characters all of whose
  bytes lie in it (`wholeIn`).
- The first character of a text is read from a range or it is not, and the rest of the range is read
  from what follows the character (`slice_encode_cons`). The induction over the text keeps the offset
  it has come to (`slice_encode_from`).
- `slice_eq_wholeIn`: what is read of a range is what it holds, and a range can be cut at every offset
  where one character ends and the next one starts.
-/

namespace DartSurvey.Tree

open Text

/-! ## Characters at their offsets -/

/-- The characters of a text that starts at an offset, each with the offset of its first byte. -/
def placed (offset : Nat) : List Char → List (Nat × Char)
  | [] => []
  | c :: cs => (offset, c) :: placed (offset + (Utf8.encodeChar c).length) cs

/-- Whether all bytes of a character lie in a range. -/
def liesIn (a b : Nat) (p : Nat × Char) : Bool := a ≤ p.1 && p.1 + (Utf8.encodeChar p.2).length ≤ b

/-- The characters of a text that lie in a range of its bytes as a whole, in their order. -/
def wholeIn (cs : List Char) (a b : Nat) : List Char := ((placed 0 cs).filter (liesIn a b)).map Prod.snd

/-- That an offset lies between two characters of a text, or at one of its ends. -/
def IsBoundary (cs : List Char) (p : Nat) : Prop := ∃ front back, cs = front ++ back ∧ Utf8.size front = p

theorem liesIn_eq_true {a b k : Nat} {c : Char} :
    liesIn a b (k, c) = true ↔ a ≤ k ∧ k + (Utf8.encodeChar c).length ≤ b := by
  simp [liesIn]

/-! ## Reading a range -/

/-- Of the bytes of a character and what follows them, the character is read if the range starts no
later than they do and ends no earlier. -/
theorem slice_encode_cons (c : Char) (cs : List Char) (a b : Nat) :
    slice (Utf8.encode (c :: cs)) a b =
      (if a = 0 ∧ (Utf8.encodeChar c).length ≤ b then [c] else []) ++
        slice (Utf8.encode cs) (a - (Utf8.encodeChar c).length) (b - (Utf8.encodeChar c).length) := by
  obtain ⟨lead, rest, hbytes, hspells⟩ := Utf8.spells_encodeChar c
  rw [slice, slice, Utf8.encode_cons, List.drop_append, List.take_append]
  by_cases ha : a = 0
  · subst ha
    by_cases hb : (Utf8.encodeChar c).length ≤ b
    · rw [List.drop_zero, Nat.zero_sub, List.drop_zero, Nat.sub_zero, Nat.sub_zero,
        List.take_of_length_le hb, Utf8.decodeWhole_encodeChar, if_pos ⟨rfl, hb⟩]
      rfl
    · -- the range ends inside the character, so nothing behind it is in the range
      have hnone : b - (Utf8.encodeChar c).length = 0 := by omega
      rw [List.drop_zero, Nat.zero_sub, List.drop_zero, Nat.sub_zero, hnone, Nat.sub_zero, List.take_zero,
        List.append_nil, Utf8.decodeWhole_cut c (by omega), if_neg (fun h => hb h.2), Utf8.decodeWhole_nil]
      rfl
  · rw [if_neg (fun h => ha h.1), List.nil_append]
    -- a range that starts inside the character has only bytes of it that carry it on
    have hcarries : ∀ x ∈ ((Utf8.encodeChar c).drop a).take (b - a), Utf8.isContinuation x = true := by
      intro x hx
      obtain ⟨k, rfl⟩ := Nat.exists_eq_succ_of_ne_zero ha
      rw [hbytes, List.drop_succ_cons] at hx
      exact hspells.carries x (List.mem_of_mem_drop (List.mem_of_mem_take hx))
    have hlen : b - a - ((Utf8.encodeChar c).drop a).length
        = b - (Utf8.encodeChar c).length - (a - (Utf8.encodeChar c).length) := by
      rw [List.length_drop]
      omega
    rw [Utf8.decodeWhole_carry hcarries, hlen]

/-- In a text that starts at an offset, the characters that lie in a range are read. -/
theorem slice_encode_from (cs : List Char) (k a b : Nat) :
    slice (Utf8.encode cs) (a - k) (b - k) = ((placed k cs).filter (liesIn a b)).map Prod.snd := by
  induction cs generalizing k with
  | nil => simp [slice, Utf8.encode, placed, Utf8.decodeWhole_nil]
  | cons c cs ih =>
    have hpos := Utf8.size_pos (List.cons_ne_nil c [])
    have hone : Utf8.size [c] = (Utf8.encodeChar c).length := Utf8.size_cons c []
    have hfirst : (a - k = 0 ∧ (Utf8.encodeChar c).length ≤ b - k) ↔ liesIn a b (k, c) = true := by
      rw [liesIn_eq_true]
      omega
    rw [slice_encode_cons, Nat.sub_sub, Nat.sub_sub, ih, placed]
    by_cases hin : liesIn a b (k, c) = true
    · rw [if_pos (hfirst.mpr hin), List.filter_cons_of_pos hin]
      rfl
    · rw [if_neg (fun h => hin (hfirst.mp h)), List.filter_cons_of_neg hin]
      rfl

theorem slice_encode (cs : List Char) (a b : Nat) : slice (Utf8.encode cs) a b = wholeIn cs a b :=
  slice_encode_from cs 0 a b

theorem IsBoundary.startsClean {cs : List Char} {p : Nat} (h : IsBoundary cs p) :
    Utf8.StartsClean ((Utf8.encode cs).drop p) := by
  obtain ⟨front, back, rfl, rfl⟩ := h
  rw [Utf8.encode_append, Utf8.size, List.drop_left]
  exact Utf8.startsClean_encode back

/-- **Ranges of bytes give whole characters.** What is read of a range of the bytes of a text, wherever
it starts and ends, is the characters of the text that lie in it as a whole. A range that is cut
between two characters gives its two parts. -/
theorem slice_eq_wholeIn (cs : List Char) (a b : Nat) :
    slice (Utf8.encode cs) a b = wholeIn cs a b ∧
      ∀ c, IsBoundary cs b → a ≤ b → b ≤ c →
        slice (Utf8.encode cs) a c = slice (Utf8.encode cs) a b ++ slice (Utf8.encode cs) b c :=
  ⟨slice_encode cs a b, fun _ hb hab hbc => slice_append hb.startsClean hab hbc⟩

/-- A text of characters with two, three, four and one bytes. -/
def mixedText : List Char := "é€😀x".toList

/-- Ranges that start or end inside one of these characters, and one that is cut behind the second. -/
theorem slice_eq_wholeIn_mixed :
    IsBoundary mixedText 5 ∧
      slice (Utf8.encode mixedText) 1 5 = ['€'] ∧
      slice (Utf8.encode mixedText) 1 10 = ['€'] ++ ['😀', 'x'] ∧
      slice (Utf8.encode mixedText) 3 8 = [] := by
  have hboundary : IsBoundary mixedText 5 := ⟨['é', '€'], ['😀', 'x'], by decide, by decide⟩
  have hleft : slice (Utf8.encode mixedText) 1 5 = ['€'] := (slice_eq_wholeIn mixedText 1 5).1.trans (by decide)
  have hright : slice (Utf8.encode mixedText) 5 10 = ['😀', 'x'] :=
    (slice_eq_wholeIn mixedText 5 10).1.trans (by decide)
  refine ⟨hboundary, hleft, ?_, (slice_eq_wholeIn mixedText 3 8).1.trans (by decide)⟩
  rw [(slice_eq_wholeIn mixedText 1 5).2 10 hboundary (by omega) (by omega), hleft, hright]

end DartSurvey.Tree
