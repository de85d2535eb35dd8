import DartSurvey.Text.Blank
import DartSurvey.Text.Word

/-! # Modifiers

The text before the names of a field declaration starts with modifiers: `leadingModifiers` takes them off
one by one. A keyword counts only if no word character follows it.
-/

namespace DartSurvey.Dart

open Text

/-- The modifiers of a field declaration. -/
inductive Modifier where
  | static | final | const | late | covariant | external | abstract | inferred
deriving DecidableEq

/-- The keyword of a modifier. -/
def Modifier.keyword : Modifier → String
  | .static => "static"
  | .final => "final"
  | .const => "const"
  | .late => "late"
  | .covariant => "covariant"
  | .external => "external"
  | .abstract => "abstract"
  | .inferred => "var"

/-- All modifiers. -/
def Modifier.all : List Modifier :=
  [.static, .final, .const, .late, .covariant, .external, .abstract, .inferred]

/-- What follows the keyword of a modifier at the start of a text, if no word character does. -/
def Modifier.strip? (m : Modifier) (cs : List Char) : Option (List Char) :=
  let word := m.keyword.toList
  if word.isPrefixOf cs && !startsWord (cs.drop word.length) then some (cs.drop word.length) else none

/-- The modifier at the start of a text, after any blanks, and what follows it. -/
def Modifier.take? (cs : List Char) : Option (Modifier × List Char) :=
  Modifier.all.findSome? fun m => (m.strip? (trimStart cs)).map (m, ·)

theorem Modifier.length_strip? {m : Modifier} {cs rest : List Char} (h : m.strip? cs = some rest) :
    rest.length < cs.length := by
  simp only [Modifier.strip?] at h
  split at h
  case isTrue hc =>
    simp only [Bool.and_eq_true, List.isPrefixOf_iff_prefix] at hc
    have hle := hc.1.length_le
    have hpos : 0 < m.keyword.toList.length := by cases m <;> decide
    simp only [Option.some.injEq] at h
    subst h
    simp only [List.length_drop]
    omega
  case isFalse => simp at h

theorem length_trimStart (cs : List Char) : (trimStart cs).length ≤ cs.length :=
  (List.dropWhile_sublist _).length_le

theorem Modifier.length_take? {m : Modifier} {cs rest : List Char}
    (h : Modifier.take? cs = some (m, rest)) : rest.length < cs.length := by
  obtain ⟨m', _, hm⟩ := List.exists_of_findSome?_eq_some h
  obtain ⟨rest', hr, he⟩ := Option.map_eq_some_iff.1 hm
  simp only [Prod.mk.injEq] at he
  have := Modifier.length_strip? hr
  have := length_trimStart cs
  rw [← he.2]
  omega

/-- The modifiers at the start of a text, and what follows the last one. -/
def leadingModifiers (cs : List Char) : List Modifier × List Char :=
  match _h : Modifier.take? cs with
  | none => ([], cs)
  | some (m, rest) =>
    let (ms, rest) := leadingModifiers rest
    (m :: ms, rest)
termination_by cs.length
decreasing_by exact Modifier.length_take? _h

end DartSurvey.Dart
