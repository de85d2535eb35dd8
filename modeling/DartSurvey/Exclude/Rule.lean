import DartSurvey.Exclude.Glob
import DartSurvey.Text.Blank

/-! # Exclusion rules

A rule is made from a pattern. A slash at its end limits the rule to directories; a slash at its start,
or one inside, makes the rule match the path below the scanned directory as a whole; without them the
rule matches any one component of that path.
-/

namespace DartSurvey.Exclude

/-- An exclusion rule. -/
structure Rule where
  pattern : String
  directoryOnly : Bool
  anchored : Bool
  hasSlash : Bool
deriving DecidableEq

/-- The rule of a pattern; a blank pattern makes none. -/
def Rule.ofPattern? (pattern : String) : Option Rule :=
  match Text.trim pattern.toList with
  | [] => none
  | cs =>
    let directoryOnly := cs.getLast? == some '/'
    let cs := if directoryOnly then cs.dropLast else cs
    let anchored := cs.head? == some '/'
    let cs := if anchored then cs.drop 1 else cs
    some ⟨String.ofList cs, directoryOnly, anchored, cs.contains '/'⟩

/-- The rules of a list of patterns. -/
def rulesOf (patterns : List String) : List Rule := patterns.filterMap Rule.ofPattern?

/-- The pieces between the separators of a text. -/
def splitAt (sep : Char) : List Char → List (List Char)
  | [] => [[]]
  | c :: cs =>
    if c == sep then [] :: splitAt sep cs
    else
      match splitAt sep cs with
      | [] => [[c]]
      | p :: ps => (c :: p) :: ps

/-- Whether a rule matches a path relative to the scanned directory. A rule with an empty pattern matches
nothing. -/
def Rule.isMatch (r : Rule) (path : String) (isDirectory : Bool) : Bool :=
  if r.pattern == "" then false
  else if r.directoryOnly && !isDirectory then false
  else
    let glob := Glob.ofChars r.pattern.toList
    if r.anchored || r.hasSlash then glob.isMatch path.toList
    else (splitAt '/' path.toList).any glob.isMatch

/-- Whether some rule matches a path. -/
def excludes (rules : List Rule) (path : String) (isDirectory : Bool) : Bool :=
  rules.any fun r => r.isMatch path isDirectory

end DartSurvey.Exclude
