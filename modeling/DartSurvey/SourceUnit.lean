/-! # Source units

What the report needs to know of a parsed file, free of any grammar: the directives and declarations in
the order of the source, and the diagnostics. What is neither an import, a class nor a field is kept as a
placeholder.
-/

namespace DartSurvey

/-- A directive at the head of a file. -/
inductive Directive where
  /-- An import; without an address when that is not a plain literal. -/
  | importing (uri asName : Option String) (deferred : Bool)
  | other (keyword : String)
deriving DecidableEq, Inhabited

/-- A member of a class. -/
inductive Member where
  /-- One declaration of fields: the names share the type and the modifiers. -/
  | fields (names : List String) (type : Option String) (isFinal isStatic : Bool)
  | other (kind : String)
deriving DecidableEq, Inhabited

/-- A declaration of a file. -/
inductive Declaration where
  | classOf (name : String) (members : List Member)
  | other (kind : String) (name : Option String)
deriving DecidableEq, Inhabited

/-- A parsed file. -/
structure SourceUnit where
  directives : List Directive := []
  declarations : List Declaration := []
  diagnostics : List String := []
deriving DecidableEq, Inhabited

end DartSurvey
