/-! # Comments in a piece of source

`stripComments` writes one space for every comment: from `//` to the end of the line, or from `/*` to the
first `*/` after it. Comments do not nest here, and a `/*` that is never closed is no comment.
-/

namespace DartSurvey.Dart

/-- What follows the first `*/`. -/
def afterClose : List Char → Option (List Char)
  | [] => none
  | '*' :: '/' :: cs => some cs
  | _ :: cs => afterClose cs

theorem length_afterClose {cs rest : List Char} (h : afterClose cs = some rest) :
    rest.length < cs.length := by
  fun_induction afterClose cs with
  | case1 => simp at h
  | case2 cs => cases h; simp only [List.length_cons]; omega
  | case3 c cs _ ih => have := ih h; simp; omega

/-- What follows the current line, its end included. -/
def afterLine (cs : List Char) : List Char := cs.dropWhile (· != '\n')

theorem length_afterLine (cs : List Char) : (afterLine cs).length ≤ cs.length :=
  (List.dropWhile_sublist _).length_le

/-- The text with a space for every comment. -/
def stripComments : List Char → List Char
  | [] => []
  | '/' :: '/' :: cs => ' ' :: stripComments (afterLine cs)
  | '/' :: '*' :: cs =>
    match _h : afterClose cs with
    | some rest => ' ' :: stripComments rest
    | none => '/' :: stripComments ('*' :: cs)
  | c :: cs => c :: stripComments cs
termination_by cs => cs.length
decreasing_by
  · have := length_afterLine cs; simp; omega
  · have := length_afterClose _h; simp; omega
  · simp
  · simp

end DartSurvey.Dart
