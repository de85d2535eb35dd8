/-! # Syntax trees

A node has a kind, the range of bytes it covers, and children in the order of the source. It may be
anonymous (a keyword or a punctuation mark), may have been put in where the source lacks it, and may have
a role in its parent.
-/

namespace DartSurvey.Tree

/-- A node of a syntax tree. -/
structure Node where
  kind : String
  start : Nat
  stop : Nat
  named : Bool := true
  missing : Bool := false
  /-- Whether the node, or one below it, does not fit the grammar. -/
  hasError : Bool := false
  row : Nat := 0
  column : Nat := 0
  role : Option String := none
  children : List Node := []
deriving Inhabited

namespace Node

/-- The children that are not anonymous. -/
def namedChildren (n : Node) : List Node := n.children.filter (·.named)

/-- The first child with a role. -/
def childInRole (role : String) (n : Node) : Option Node := n.children.find? (·.role == some role)

/-- The first child of a kind that is not anonymous. -/
def namedChild (kind : String) (n : Node) : Option Node := n.namedChildren.find? (·.kind == kind)

mutual

/-- The first node of a kind, from the node itself down through its children in order. -/
def findFirst (kind : String) : Node → Option Node
  | n@⟨k, _, _, _, _, _, _, _, _, children⟩ => if k == kind then some n else findFirstIn kind children

/-- The first node of a kind in a list of trees. -/
def findFirstIn (kind : String) : List Node → Option Node
  | [] => none
  | n :: ns => (findFirst kind n).or (findFirstIn kind ns)

end

mutual

/-- The number of nodes of a tree. -/
def count : Node → Nat
  | ⟨_, _, _, _, _, _, _, _, _, children⟩ => 1 + countAll children

/-- The number of nodes of a list of trees. -/
def countAll : List Node → Nat
  | [] => 0
  | n :: ns => count n + countAll ns

end

theorem countAll_append (xs ys : List Node) : countAll (xs ++ ys) = countAll xs + countAll ys := by
  induction xs with
  | nil => simp [countAll]
  | cons x xs ih => simp [countAll, ih, Nat.add_assoc]

theorem count_eq (n : Node) : n.count = 1 + countAll n.children := by
  cases n; simp [count]

end Node

end DartSurvey.Tree
