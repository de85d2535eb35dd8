import DartSurvey.Tree.Node

/-! # Diagnostics

The faults of a tree are the nodes that do not fit the grammar and the nodes put in for missing text. Of
these the first twenty in the order of the source are reported; a fault below another fault is not.
-/

namespace DartSurvey.Tree.Node

/-- Whether a node is a fault. -/
def isFault (n : Node) : Bool := n.kind == "ERROR" || n.missing

/-- The first faults of a list of trees, at most `limit` of them. Below a node that is no fault the search
goes on only if the node is marked as having an error. -/
def firstFaults (limit : Nat) : List Node → List Node
  | [] => []
  | n :: rest =>
    match limit with
    | 0 => []
    | limit + 1 =>
      if n.isFault then n :: firstFaults limit rest
      else if n.hasError then firstFaults (limit + 1) (n.children ++ rest)
      else firstFaults (limit + 1) rest
termination_by agenda => countAll agenda
decreasing_by
  · simp only [countAll, count_eq]; omega
  · simp only [countAll, countAll_append, count_eq]; omega
  · simp only [countAll, count_eq]; omega

/-- The words for a fault, after its line and column counted from one. -/
def faultText (n : Node) : String :=
  toString (n.row + 1) ++ ":" ++ toString (n.column + 1) ++ ": "
    ++ (if n.missing then "missing " ++ n.kind else "unexpected syntax")

/-- How many faults are reported. -/
def maxDiagnostics : Nat := 20

/-- The diagnostics of a tree. -/
def diagnostics (root : Node) : List String :=
  if root.hasError then (firstFaults maxDiagnostics [root]).map faultText else []

end DartSurvey.Tree.Node
