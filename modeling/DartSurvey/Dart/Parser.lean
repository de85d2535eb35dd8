import DartSurvey.Dart.Reader
import DartSurvey.Tree.Convert

/-! # Parsing Dart

A parser is a function from source text to its unit. `Dart.parse` is the parser of this library.
-/

namespace DartSurvey

/-- A parser of source text. -/
abbrev Parser := String → SourceUnit

/-- The unit of Dart source. -/
def Dart.parse : Parser := fun source =>
  SourceUnit.ofTree (Text.Utf8.encode source.toList) (Dart.tree source.toList)

end DartSurvey
