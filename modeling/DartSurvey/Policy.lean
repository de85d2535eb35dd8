/-! # Filter policies

A policy says which switches are on. Two of them, "final fields only" and "no final fields", exclude each
other, so a policy carries a proof that they are not both on (`Policy.consistent`) and
`Policy.ofSwitches` refuses such a choice. The markdown switch names an output format and filters nothing.
-/

namespace DartSurvey

/-- The switches of a policy. -/
inductive Switch where
  | privateOnly | noPrimitives | finalOnly | noFinal | noClasses | noImports | markdown
deriving DecidableEq

namespace Switch

/-- All switches in the order in which they are listed. -/
def all : List Switch :=
  [.privateOnly, .noPrimitives, .finalOnly, .noFinal, .noClasses, .noImports, .markdown]

theorem mem_all (s : Switch) : s ∈ all := by cases s <;> decide

/-- The key of a switch in a settings file. -/
def key : Switch → String
  | .privateOnly => "private_only"
  | .noPrimitives => "no_primitives"
  | .finalOnly => "final_only"
  | .noFinal => "no_final"
  | .noClasses => "no_classes"
  | .noImports => "no_imports"
  | .markdown => "markdown"

/-- The name of a switch in the summary of a policy. -/
def summary : Switch → String
  | .privateOnly => "privateOnly"
  | .noPrimitives => "noPrimitives"
  | .finalOnly => "finalOnly"
  | .noFinal => "noFinal"
  | .noClasses => "noClasses"
  | .noImports => "noImports"
  | .markdown => "markdown"

/-- The option of the command line for a switch. -/
def option : Switch → String
  | .privateOnly => "--private-only"
  | .noPrimitives => "--no-primitives"
  | .finalOnly => "--final-only"
  | .noFinal => "--no-final"
  | .noClasses => "--no-classes"
  | .noImports => "--no-imports"
  | .markdown => "--markdown"

/-- The switch with a key. -/
def ofKey? (key : String) : Option Switch := all.find? (·.key == key)

end Switch

/-- A consistent choice of switches. -/
structure Policy where
  on : Switch → Bool
  consistent : (on .finalOnly && on .noFinal) = false

namespace Policy

/-- The policy with every switch off. -/
def standard : Policy := ⟨fun _ => false, rfl⟩

instance : Inhabited Policy := ⟨standard⟩

/-- The choice of two switches that exclude each other. -/
inductive Conflict where
  | finalOnlyAndNoFinal
deriving DecidableEq

/-- The words for a conflict. -/
def Conflict.message : Conflict → String
  | .finalOnlyAndNoFinal => "Cannot use final_only together with no_final"

/-- The policy with exactly the given switches on. -/
def ofSwitches (on : Switch → Bool) : Except Conflict Policy :=
  if h : (on .finalOnly && on .noFinal) = false then .ok ⟨on, h⟩ else .error .finalOnlyAndNoFinal

/-- The switches that are on, in their order. -/
def enabled (p : Policy) : List Switch := Switch.all.filter p.on

/-- Whether the output is plain text. -/
def simple (p : Policy) : Bool := !p.on .markdown

/-- The names of the switches that are on. -/
def flags (p : Policy) : List String := p.enabled.map Switch.summary

/-- The command line options of the switches that are on. -/
def options (p : Policy) : List String := p.enabled.map Switch.option

/-- The policy as text. -/
def text (p : Policy) : String :=
  if p.flags.isEmpty then "FilterPolicy(default)"
  else "FilterPolicy(" ++ String.intercalate ", " p.flags ++ ")"

/-! ## Which fields pass -/

/-- The types that count as primitive. -/
def primitiveNames : List String :=
  ["String", "int", "num", "double", "bool", "Object", "dynamic", "DateTime"]

/-- The written forms of a primitive type: plain, nullable, and awaited in either form. -/
def primitiveForms (name : String) : List String :=
  [name, name ++ "?", "Future<" ++ name ++ ">", "Future<" ++ name ++ "?>"]

/-- Whether a written type is a form of a primitive type. -/
def isPrimitive (type : String) : Bool := primitiveNames.any fun name => (primitiveForms name).contains type

/-- Whether a field of this name is wanted. -/
def passesVisibility (p : Policy) (name : String) : Bool :=
  !p.on .privateOnly || name.toList.head? == some '_'

/-- Whether a field that is or is not final is wanted. -/
def passesFinality (p : Policy) (isFinal : Bool) : Bool :=
  !(p.on .finalOnly && !isFinal) && !(p.on .noFinal && isFinal)

/-- Whether a field of this type is wanted. -/
def passesPrimitives (p : Policy) (type : String) : Bool := !p.on .noPrimitives || !isPrimitive type

/-- Whether a field passes every filter. -/
def keeps (p : Policy) (name type : String) (isFinal : Bool) : Bool :=
  p.passesVisibility name && p.passesFinality isFinal && p.passesPrimitives type

end Policy

end DartSurvey
