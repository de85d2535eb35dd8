/-! # Paths

A path is an anchor, which is empty for a relative path, and a list of components. Empty components and
single dots are dropped when a path is read; two dots stay.
-/

namespace DartSurvey.Disk

/-- A path. -/
structure Path where
  anchor : String := ""
  parts : List String
deriving DecidableEq, Inhabited

namespace Path

/-- The pieces of a text between slashes. -/
def pieces : List Char → List (List Char)
  | [] => [[]]
  | c :: cs =>
    if c == '/' then [] :: pieces cs
    else
      match pieces cs with
      | [] => [[c]]
      | p :: ps => (c :: p) :: ps

/-- The pieces of a string between slashes, empty ones too. -/
def names (s : String) : List String := (pieces s.toList).map String.ofList

/-- The components of a text: its pieces, without empty ones and single dots. -/
def components (s : String) : List String := (names s).filter fun p => p != "" && p != "."

/-- The anchor of a text: two slashes stay two, and any other number is one. -/
def anchorOf (s : String) : String :=
  match s.toList with
  | '/' :: '/' :: '/' :: _ => "/"
  | '/' :: '/' :: _ => "//"
  | '/' :: _ => "/"
  | _ => ""

/-- The path a text stands for. -/
def ofString (s : String) : Path := ⟨anchorOf s, components s⟩

/-- The text of a path; the empty relative path is a dot. -/
def text (p : Path) : String :=
  if p.anchor == "" && p.parts.isEmpty then "." else p.anchor ++ String.intercalate "/" p.parts

/-- The path with its dot: the empty relative path, whose text is a dot, has it for a component. -/
@[irreducible]
def dotted (p : Path) : Path := if p.anchor == "" && p.parts.isEmpty then ⟨"", ["."]⟩ else p

/-- The path with more components behind it. -/
def append (p : Path) (parts : List String) : Path := ⟨p.anchor, p.parts ++ parts⟩

/-- The path without its last component. -/
def parent (p : Path) : Path := ⟨p.anchor, p.parts.dropLast⟩

/-- The last component, or nothing for a path without any. -/
def name (p : Path) : String := p.parts.getLast?.getD ""

end Path

end DartSurvey.Disk
