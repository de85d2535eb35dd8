import DartSurvey.Proofs.Dart.Literal

/-!
# Dollar signs in literals

A literal that is not raw is interpolated if a dollar sign stands in it that no backslash escapes. The
reader of literals takes every dollar sign for an interpolation.

- A text is read escape by escape (`interpolates`), so a dollar sign is escaped exactly if an odd number
  of backslashes stands right before it (`interpolates_iff`).
- A text with a dollar sign has no value, whatever else stands in it (`valueBetween?_dollar`).
- `literalValue?_dollar`: the value of a literal is none if it is interpolated and else its body, unless
  it has dollar signs all of which are escaped. Such a literal has no value.
-/

namespace DartSurvey.Dart

open Text

/-! ## Escaped dollar signs -/

/-- Whether a dollar sign stands in the body of a literal that is not escaped. -/
def interpolates : List Char → Bool
  | [] => false
  | '\\' :: _ :: cs => interpolates cs
  | c :: cs => c == '$' || interpolates cs

/-- The number of backslashes at the end of a text. -/
def backslashesAtEnd (cs : List Char) : Nat := (cs.reverse.takeWhile (· == '\\')).length

/-- Behind an even number of backslashes, backslashes count as they do at the start of a text. -/
theorem backslashesAtEnd_append {a : List Char} (ha : backslashesAtEnd a % 2 = 0) (cs : List Char) :
    backslashesAtEnd (a ++ cs) % 2 = backslashesAtEnd cs % 2 := by
  unfold backslashesAtEnd at *
  rw [List.reverse_append, List.takeWhile_append]
  split
  · rename_i hall
    rw [List.length_append, hall]
    omega
  · rfl

theorem backslashesAtEnd_escape (c : Char) : backslashesAtEnd ['\\', c] % 2 = 0 := by
  by_cases hc : c = '\\'
  · rw [hc]
    rfl
  · simp [backslashesAtEnd, hc]

theorem backslashesAtEnd_char {c : Char} (hc : c ≠ '\\') : backslashesAtEnd [c] = 0 := by
  simp [backslashesAtEnd, hc]

/-- A dollar sign is escaped exactly if an odd number of backslashes stands right before it. -/
theorem interpolates_iff (body : List Char) :
    interpolates body = true ↔
      ∃ front back, body = front ++ '$' :: back ∧ backslashesAtEnd front % 2 = 0 := by
  fun_induction interpolates body with
  | case1 => simp
  | case2 c cs ih =>
    have hparity := backslashesAtEnd_append (backslashesAtEnd_escape c)
    rw [ih]
    constructor
    · rintro ⟨front, back, rfl, heven⟩
      exact ⟨'\\' :: c :: front, back, rfl, (hparity front).trans heven⟩
    · rintro ⟨front, back, hbody, heven⟩
      rcases front with _ | ⟨a, _ | ⟨b, front⟩⟩
      · cases hbody
      · cases hbody
        cases heven
      · cases hbody
        exact ⟨front, back, rfl, (hparity front).symm.trans heven⟩
  | case3 c cs hne ih =>
    -- a backslash at the end of a text has nothing behind it
    have hparity : ∀ front back, cs = front ++ '$' :: back →
        backslashesAtEnd (c :: front) % 2 = backslashesAtEnd front % 2 := by
      rintro front back rfl
      have hc : c ≠ '\\' := by
        rintro rfl
        cases front with
        | nil => exact hne '$' back rfl rfl
        | cons d front => exact hne d _ rfl rfl
      exact backslashesAtEnd_append (by rw [backslashesAtEnd_char hc]) front
    rw [Bool.or_eq_true, beq_iff_eq, ih]
    constructor
    · rintro (rfl | ⟨front, back, hcs, heven⟩)
      · exact ⟨[], cs, rfl, rfl⟩
      · exact ⟨c :: front, back, by rw [hcs, List.cons_append], (hparity front back hcs).trans heven⟩
    · rintro ⟨front, back, hbody, heven⟩
      cases front with
      | nil => exact Or.inl (List.cons.inj hbody).1
      | cons d front =>
        obtain ⟨rfl, hcs⟩ := List.cons.inj hbody
        exact Or.inr ⟨front, back, hcs, (hparity front back hcs).symm.trans heven⟩

theorem interpolates_eq_false_iff (body : List Char) :
    interpolates body = false ↔
      ∀ front back, body = front ++ '$' :: back → backslashesAtEnd front % 2 = 1 := by
  rw [← Bool.not_eq_true, interpolates_iff]
  constructor
  · intro hplain front back hbody
    have hne : backslashesAtEnd front % 2 ≠ 0 := fun heven => hplain ⟨front, back, hbody, heven⟩
    omega
  · rintro hodd ⟨front, back, hbody, heven⟩
    have := hodd front back hbody
    omega

theorem mem_of_interpolates {body : List Char} (h : interpolates body = true) : '$' ∈ body := by
  obtain ⟨front, back, rfl, -⟩ := (interpolates_iff body).mp h
  simp

/-! ## Values -/

/-- A text with a dollar sign has no value. -/
theorem valueBetween?_dollar {cs : List Char} (h : '$' ∈ cs) : valueBetween? false cs = none := by
  rw [valueBetween?, Option.bind_eq_none_iff]
  rintro ⟨quote, body⟩ hfound
  obtain ⟨hq, rfl⟩ := unquote?_eq_some hfound
  have hquote : '$' ∉ quote := by
    obtain ⟨x, rfl | rfl, rfl | rfl⟩ := mem_quoteMarks.mp hq <;> simp
  have hbody : '$' ∈ body := by simpa [hquote] using h
  simp [bodyValue?, hbody]

/-- A text that starts and ends with a quote, with any blanks around it, is not taken for a raw
literal. -/
theorem literalChars?_quoted {quote before after : List Char} (hq : quote ∈ quoteMarks)
    (hb : before.all isBlank = true) (ha : after.all isBlank = true) (body : List Char) :
    literalChars? (before ++ (quote ++ (body ++ quote)) ++ after)
      = valueBetween? false (quote ++ (body ++ quote)) := by
  obtain ⟨x, hx, hquote⟩ := mem_quoteMarks.mp hq
  have htrim : trim (before ++ (quote ++ (body ++ quote)) ++ after) = quote ++ (body ++ quote) := by
    apply trim_blank hb ha
    · rcases hquote with rfl | rfl <;> simp
    · rcases hquote with rfl | rfl <;> simp [hx.not_isBlank]
    · rcases hquote with rfl | rfl <;> simp [List.getLast?_append, List.getLast?_cons, hx.not_isBlank]
  rw [literalChars?, htrim]
  rcases hquote with rfl | rfl <;> rcases hx with rfl | rfl <;> rfl

/-- **Dollar signs in literals.** Between quotes, with any blanks around them, a body with a dollar sign
has no value, and the body of a literal without one is its value. So a literal has the value that it
should have, none if it is interpolated and else its body, unless there are dollar signs in it and an
odd number of backslashes before each of them. What stands in the expressions of an interpolated
literal, quotes included, does not matter. -/
theorem literalValue?_dollar {quote : List Char} (hq : quote ∈ quoteMarks) (body before after : List Char)
    (hb : before.all isBlank = true) (ha : after.all isBlank = true) :
    let value := literalValue? (String.ofList (before ++ (quote ++ (body ++ quote)) ++ after))
    ('$' ∈ body → value = none) ∧
      (IsBody false quote body → '$' ∉ body → value = some (String.ofList body)) ∧
      (IsBody false quote body ∨ interpolates body = true →
        (value = (if interpolates body then none else some (String.ofList body)) ↔
          ¬('$' ∈ body ∧ ∀ front back, body = front ++ '$' :: back → backslashesAtEnd front % 2 = 1))) := by
  intro value
  have hvalue : value = (valueBetween? false (quote ++ (body ++ quote))).map String.ofList := by
    rw [← literalChars?_quoted hq hb ha, ← String.toList_ofList (l := before ++ _ ++ after)]
    rfl
  have hnone : '$' ∈ body → value = none := by
    intro hdollar
    rw [hvalue, valueBetween?_dollar (by simp [hdollar]), Option.map_none]
  have hsome : IsBody false quote body → '$' ∉ body → value = some (String.ofList body) := by
    intro hbody hdollar
    have hread := Literal.value_quoted ⟨false, quote, body, hq, hbody⟩ (Or.inr hdollar)
    rw [hvalue]
    exact congrArg (Option.map String.ofList) hread
  refine ⟨hnone, hsome, fun hformed => ?_⟩
  rw [← interpolates_eq_false_iff]
  cases hinter : interpolates body with
  | true => simp [hnone (mem_of_interpolates hinter)]
  | false =>
    by_cases hdollar : '$' ∈ body
    · simp [hnone hdollar, hdollar]
    · have hbody : IsBody false quote body := hformed.resolve_right (by simp [hinter])
      simp [hsome hbody hdollar, hdollar]

/-- Behind one backslash a dollar sign is escaped, and behind two it is not. Neither literal has a
value. -/
theorem literalValue?_dollar_escaped :
    (IsBody false ['\''] "a\\$b".toList ∧ interpolates "a\\$b".toList = false ∧
      literalValue? "'a\\$b'" = none) ∧
    (IsBody false ['\''] "a\\\\$b".toList ∧ interpolates "a\\\\$b".toList = true ∧
      literalValue? " 'a\\\\$b'\n" = none) := by
  have hquote : ['\''] ∈ quoteMarks := by decide
  have hchar : ∀ c cs, c ≠ '\\' → c ≠ '\'' → IsBody false ['\''] cs → IsBody false ['\''] (c :: cs) :=
    fun c cs hslash hmark => .char (Or.inr hslash) (by simpa using Ne.symm hmark)
  have hb : IsBody false ['\''] ['b'] := hchar 'b' [] (by decide) (by decide) .nil
  refine ⟨⟨?_, by decide, ?_⟩, ?_, by decide, ?_⟩
  · exact hchar 'a' _ (by decide) (by decide) (.escape '$' rfl hb)
  · exact (literalValue?_dollar hquote "a\\$b".toList [] [] rfl rfl).1 (by decide)
  · exact hchar 'a' _ (by decide) (by decide) (.escape '\\' rfl (hchar '$' _ (by decide) (by decide) hb))
  · exact (literalValue?_dollar hquote "a\\\\$b".toList [' '] ['\n'] rfl rfl).1 (by decide)

end DartSurvey.Dart
