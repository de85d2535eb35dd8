import DartSurvey.Text.Blank

/-! # String literals

`literalValue` reads the text of a literal: an `r` for a raw one, a quote, the body, and the same quote.
The body is returned as it is written. There is no value when the literal is interpolated (a `$` in one
that is not raw), or when the quote shows up inside the body, as it does between adjacent literals.
-/

namespace DartSurvey.Dart

open Text

/-- The quotes of a literal, the triple ones first. -/
def quoteMarks : List (List Char) := [['\'', '\'', '\''], ['"', '"', '"'], ['\''], ['"']]

/-- The body between two copies of a quote that do not overlap. -/
def between? (quote cs : List Char) : Option (List Char) :=
  if 2 * quote.length ≤ cs.length && quote.isPrefixOf cs && quote.isSuffixOf cs then
    some ((cs.drop quote.length).take (cs.length - 2 * quote.length))
  else none

/-- The first quote that surrounds a text, and the body between. -/
def unquote? (cs : List Char) : Option (List Char × List Char) :=
  quoteMarks.findSome? fun quote => (between? quote cs).map (quote, ·)

/-- Whether a quote stands in a text; unless `raw`, one right after a backslash does not count.
`escaped` says whether the text comes right after a backslash. -/
def holdsQuote (raw : Bool) (quote : List Char) (escaped : Bool) : List Char → Bool
  | [] => false
  | c :: cs =>
    ((raw || !escaped) && quote.isPrefixOf (c :: cs)) || holdsQuote raw quote (c == '\\') cs

/-- The value of the body of a literal. -/
def bodyValue? (raw : Bool) (quote body : List Char) : Option (List Char) :=
  if !raw && body.contains '$' then none
  else if holdsQuote raw quote false body then none
  else some body

/-- The characters of the value of a literal. -/
def literalChars? (cs : List Char) : Option (List Char) :=
  match trim cs with
  | 'r' :: rest => (unquote? rest).bind fun (quote, body) => bodyValue? true quote body
  | text => (unquote? text).bind fun (quote, body) => bodyValue? false quote body

/-- The value of a literal. -/
def literalValue? (s : String) : Option String := (literalChars? s.toList).map String.ofList

end DartSurvey.Dart
