import DartSurvey.Proofs.Text.Utf8
import DartSurvey.Text.Blank
import DartSurvey.Tree.Convert
import Mathlib.Data.List.Basic

/-!
# Bytes inserted into a source

- Text behind inserted bytes is found at offsets that are larger by their number (`slice_insertAt`),
  so a node behind them with all offsets increased (`Node.shift`) has the text it had
  (`shift_text`), and a list of names the names it had (`shift_declaredNames`).
- A range can be cut between two characters (`slice_append`).
-/

namespace DartSurvey.Tree

open Text

/-! ## Inserted bytes -/

/-- The bytes with others inserted at an offset. -/
def insertAt (p : Nat) (new source : List UInt8) : List UInt8 := source.take p ++ new ++ source.drop p

theorem drop_insertAt {p start : Nat} {source : List UInt8} (hp : p ≤ source.length) (h : p ≤ start)
    (new : List UInt8) : (insertAt p new source).drop (start + new.length) = source.drop start := by
  have hlen : (source.take p ++ new).length = p + new.length := by
    rw [List.length_append, List.length_take, Nat.min_eq_left hp]
  rw [insertAt, List.drop_append, List.drop_eq_nil_of_le (by omega), hlen, List.nil_append,
    List.drop_drop]
  congr 1
  omega

/-- Text behind inserted bytes is found at the shifted offsets. -/
theorem slice_insertAt {p start : Nat} {source : List UInt8} (hp : p ≤ source.length) (h : p ≤ start)
    (new : List UInt8) (stop : Nat) :
    slice (insertAt p new source) (start + new.length) (stop + new.length) = slice source start stop := by
  rw [slice, slice, drop_insertAt hp h, Nat.add_sub_add_right]

theorem startsClean_take {bytes : List UInt8} (h : Utf8.StartsClean bytes) (n : Nat) :
    Utf8.StartsClean (bytes.take n) := by
  intro b hb
  cases bytes with
  | nil => simp at hb
  | cons c bytes =>
    cases n with
    | zero => simp at hb
    | succ n => exact h b hb

/-- A range that is cut between characters gives the two parts. -/
theorem slice_append {source : List UInt8} {start p stop : Nat} (h : Utf8.StartsClean (source.drop p))
    (hs : start ≤ p) (he : p ≤ stop) :
    slice source start stop = slice source start p ++ slice source p stop := by
  have hbytes : (source.drop start).take (stop - start)
      = (source.drop start).take (p - start) ++ (source.drop p).take (stop - p) := by
    have hdrop : source.drop p = (source.drop start).drop (p - start) := by
      rw [List.drop_drop]
      congr 1
      omega
    rw [hdrop, ← List.take_add]
    congr 1
    omega
  rw [slice, slice, slice, hbytes, Utf8.decodeWhole_append _ (startsClean_take h _)]

/-- The text of blank ASCII bytes is blank. -/
theorem decodeWhole_blank {bytes : List UInt8}
    (h : ∀ b ∈ bytes, b < 0x80 ∧ isBlank (Char.ofNat b.toNat) = true) :
    (Utf8.decodeWhole bytes).all isBlank = true := by
  have hascii : (bytes.all fun b => b < 0x80) = true :=
    List.all_eq_true.mpr fun b hb => decide_eq_true (h b hb).1
  rw [Utf8.decodeWhole_ascii hascii, List.all_map, List.all_eq_true]
  exact fun b hb => (h b hb).2

/-! ## Shifted nodes -/

mutual

/-- A node with all offsets in it increased. -/
def Node.shift (k : Nat) : Node → Node
  | ⟨kind, start, stop, named, missing, hasError, row, column, role, children⟩ =>
    ⟨kind, start + k, stop + k, named, missing, hasError, row, column, role, shiftAll k children⟩

/-- Nodes with all offsets in them increased. -/
def shiftAll (k : Nat) : List Node → List Node
  | [] => []
  | n :: ns => n.shift k :: shiftAll k ns

end

mutual

/-- That a node, with all below it, lies behind an offset. -/
def Node.LiesFrom (p : Nat) : Node → Prop
  | ⟨_, start, stop, _, _, _, _, _, _, children⟩ => p ≤ start ∧ p ≤ stop ∧ LieFrom p children

/-- That nodes, with all below them, lie behind an offset. -/
def LieFrom (p : Nat) : List Node → Prop
  | [] => True
  | n :: ns => n.LiesFrom p ∧ LieFrom p ns

end

theorem shiftAll_eq_map (k : Nat) (ns : List Node) : shiftAll k ns = ns.map (Node.shift k) := by
  induction ns with
  | nil => rfl
  | cons n ns ih => rw [shiftAll, ih, List.map_cons]

theorem lieFrom_iff {p : Nat} {ns : List Node} : LieFrom p ns ↔ ∀ n ∈ ns, n.LiesFrom p := by
  induction ns with
  | nil => simp [LieFrom]
  | cons n ns ih => simp [LieFrom, ih]

theorem Node.LiesFrom.children {p : Nat} {n : Node} (h : n.LiesFrom p) :
    ∀ c ∈ n.children, c.LiesFrom p := by
  cases n
  exact lieFrom_iff.mp h.2.2

section Shift

variable (k : Nat) (n : Node)

@[simp] theorem shift_kind : (n.shift k).kind = n.kind := by cases n; rfl

@[simp] theorem shift_named : (n.shift k).named = n.named := by cases n; rfl

@[simp] theorem shift_start : (n.shift k).start = n.start + k := by cases n; rfl

@[simp] theorem shift_stop : (n.shift k).stop = n.stop + k := by cases n; rfl

theorem shift_namedChildren : (n.shift k).namedChildren = n.namedChildren.map (Node.shift k) := by
  cases n
  simp [Node.namedChildren, Node.shift, shiftAll_eq_map, List.filter_map, Function.comp_def]

theorem shift_namedChild (kind : String) :
    (n.shift k).namedChild kind = (n.namedChild kind).map (Node.shift k) := by
  rw [Node.namedChild, Node.namedChild, shift_namedChildren, List.find?_map]
  simp only [Function.comp_def, shift_kind]

end Shift

section Names

variable {p : Nat} {source : List UInt8} (hp : p ≤ source.length) (new : List UInt8)
include hp

/-- The text of a node behind inserted bytes is that of the node before they were inserted. -/
theorem shift_text {n : Node} (h : n.LiesFrom p) :
    (n.shift new.length).text (insertAt p new source) = n.text source := by
  have hstart : p ≤ n.start := by
    cases n
    exact h.1
  rw [Node.text, Node.text, Node.chars, Node.chars, shift_start, shift_stop, slice_insertAt hp hstart]

theorem shift_declaredName? {n : Node} (h : n.LiesFrom p) :
    declaredName? (insertAt p new source) (n.shift new.length) = declaredName? source n := by
  unfold declaredName?
  rw [shift_kind, shift_text hp new h, shift_namedChild, Option.map_map]
  congr 2
  cases hc : n.namedChild "identifier" with
  | none => rfl
  | some c =>
    have hmem : c ∈ n.children := List.mem_of_mem_filter (List.mem_of_find?_eq_some hc)
    exact congrArg some (shift_text hp new (h.children c hmem))

/-- The names of a list behind inserted bytes. -/
theorem shift_declaredNames {list : Node} (h : list.LiesFrom p) :
    declaredNames (insertAt p new source) (list.shift new.length) = declaredNames source list := by
  rw [declaredNames, declaredNames, shift_namedChildren, List.filterMap_map]
  apply List.filterMap_congr
  intro n hn
  exact shift_declaredName? hp new (h.children n (List.mem_of_mem_filter hn))

end Names

end DartSurvey.Tree
