import DartSurvey.Yaml.Node

/-! # Merging mappings

A mapping takes over the entries of other mappings under a key with the tag `Tag.merge`. `Nodes.flatten` carries
this out: the entries that are taken over come first, so the mapping's own ones count in their place, and in
a list of mappings the last one comes first. What is merged is itself flattened before. A mapping may be
merged into a part of itself, or into itself: a key that merges is gone before its value is looked at, so
such a mapping gives the entries it has at that moment.
-/

namespace DartSurvey.Yaml.Nodes

variable (nodes : Nodes)

/-- The tag of a node. -/
def tagOf (id : Nat) : Tag := (nodes[id]?.getD default).tag

/-- The content of a node. -/
def contentOf (id : Nat) : Content := (nodes[id]?.getD default).content

/-- The entries of a mapping; another node has none. -/
def entriesOf (id : Nat) : List (Nat × Nat) :=
  match nodes.contentOf id with
  | .mapping entries => entries
  | _ => []

/-- The nodes with other entries for a mapping. -/
def setEntries (id : Nat) (entries : List (Nat × Nat)) : Nodes :=
  nodes.modify id fun n => { n with content := .mapping entries }

/-- Turns the key of a value into a plain text. -/
def plainKey (id : Nat) : Nodes :=
  if nodes.tagOf id = .value then nodes.modify id fun n => { n with tag := .str } else nodes

/-- Whether an entry merges its value into the mapping. -/
def isMerge (entry : Nat × Nat) : Bool := nodes.tagOf entry.1 = .merge

/-- The number of entries that merge, in all mappings together. -/
def mergeCount : Nat :=
  nodes.foldl (fun n node => match node.content with
    | .mapping entries => n + entries.countP nodes.isMerge
    | _ => n) 0

/-- Takes the first entry that merges out of a mapping, and returns its value. -/
def takeMerge (id : Nat) : Option (Nat × Nodes) :=
  let entries := nodes.entriesOf id
  match entries.find? nodes.isMerge with
  | none => none
  | some (_, value) => some (value, nodes.setEntries id (entries.eraseP nodes.isMerge))

mutual

/-- Flattens a mapping. -/
def flattenWith (fuel : Nat) (nodes : Nodes) (id : Nat) : Except Fault Nodes :=
  gather fuel ((nodes.entriesOf id).foldl (fun nodes e => nodes.plainKey e.1) nodes) id []
termination_by (fuel, 1, 0)

/-- Takes over the values that a mapping merges, and puts them with those in `merged` before its own
entries. -/
def gather (fuel : Nat) (nodes : Nodes) (id : Nat) (merged : List (Nat × Nat)) : Except Fault Nodes :=
  match fuel with
  | 0 => .error .malformed
  | fuel + 1 =>
    match nodes.takeMerge id with
    | none => .ok (nodes.setEntries id (merged ++ nodes.entriesOf id))
    | some (value, nodes) => do
      let (nodes, more) ← match nodes.contentOf value with
        | .mapping _ => do
          let nodes ← flattenWith fuel nodes value
          pure (nodes, nodes.entriesOf value)
        | .sequence items => gatherItems fuel nodes items
        | .scalar _ => throw .malformed
      gather fuel nodes id (merged ++ more)
termination_by (fuel, 0, 0)

/-- Flattens a list of mappings, and returns their entries, those of the last mapping first. -/
def gatherItems (fuel : Nat) (nodes : Nodes) : List Nat → Except Fault (Nodes × List (Nat × Nat))
  | [] => .ok (nodes, [])
  | item :: items =>
    match nodes.contentOf item with
    | .mapping _ => do
      let nodes ← flattenWith fuel nodes item
      let entries := nodes.entriesOf item
      let (nodes, more) ← gatherItems fuel nodes items
      return (nodes, more ++ entries)
    | _ => .error .malformed
termination_by items => (fuel, 2, items.length)

end

/-- The nodes after a mapping has taken over what it merges. Each step takes out an entry that merges. -/
def flatten (id : Nat) : Except Fault Nodes := flattenWith (nodes.mergeCount + 1) nodes id

end DartSurvey.Yaml.Nodes
