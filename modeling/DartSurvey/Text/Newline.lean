/-! # Line ends

A text read from a file has one kind of line end: a carriage return with a line feed after it, and a
carriage return alone, are both read as a line feed (`unifyNewlines`).
-/

namespace DartSurvey.Text

/-- Writes every line end as a line feed. -/
def unifyNewlines : List Char → List Char
  | [] => []
  | '\r' :: '\n' :: cs => '\n' :: unifyNewlines cs
  | '\r' :: cs => '\n' :: unifyNewlines cs
  | c :: cs => c :: unifyNewlines cs

/-- No carriage return is left. -/
theorem not_mem_unifyNewlines (cs : List Char) : '\r' ∉ unifyNewlines cs := by
  fun_induction unifyNewlines cs <;> simp_all [eq_comm]

end DartSurvey.Text
