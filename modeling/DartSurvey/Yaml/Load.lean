import DartSurvey.Yaml.Datum
import DartSurvey.Yaml.Merge

/-! # From a document to its data

`load` gives the data of the one document in a text. A collection is made empty when it is first met, and is
filled after those that were met before it, so a document is filled in level by level, and the first fault
on that way counts. A collection may hold itself; data are unfolded to the depth that is asked for.
-/

namespace DartSurvey.Yaml

/-- What a node stands for: a datum, or the collection made from the node with a number. -/
inductive Ref where
  | datum (d : Datum)
  | collection (id : Nat)
deriving Inhabited

/-- A collection that is filled. -/
inductive Collection where
  | list (items : List Ref)
  | map (entries : List (Ref × Ref))
  | set (members : List Ref)
  | pairs (items : List (Ref × Ref))

namespace Ref

/-- Whether two keys are the same. -/
def sameKey : Ref → Ref → Bool
  | .datum a, .datum b => a.sameKey b
  | _, _ => false

/-- Entries with one more. An entry with the same key keeps its place and gets the new value. -/
def put (k v : Ref) : List (Ref × Ref) → List (Ref × Ref)
  | [] => [(k, v)]
  | (k', v') :: rest => if sameKey k' k then (k', v) :: rest else (k', v') :: put k v rest

end Ref

/-! ## Scalars -/

/-- Whether a tag is that of a collection. -/
def Tag.isCollection : Tag → Bool
  | .seq | .map | .set | .omap | .pairs => true
  | _ => false

/-- The text of a scalar. A mapping stands for a scalar if it has a value under the key for one. -/
def Nodes.scalarText (nodes : Nodes) : (fuel : Nat) → (id : Nat) → Except Fault Text.Wide
  | 0, _ => .error .endless
  | fuel + 1, id =>
    match nodes.contentOf id with
    | .scalar text => .ok text
    | .sequence _ => .error .malformed
    | .mapping entries =>
      match entries.find? fun e => nodes.tagOf e.1 = .value with
      | some (_, value) => nodes.scalarText fuel value
      | none => .error .malformed

/-- What a node stands for that has the tag of a scalar. -/
def Nodes.scalar (nodes : Nodes) (id : Nat) : Except Fault Datum :=
  match nodes.tagOf id with
  | .null | .bool | .int | .float | .str | .timestamp | .binary => do
    let text ← nodes.scalarText (nodes.size + 1) id
    match nodes.tagOf id, nodes.contentOf id with
    | .timestamp, .mapping _ => throw .notAText
    | tag, _ => Datum.ofScalar tag text
  | _ => .error .malformed

/-! ## Collections -/

/-- How far the data of a document have been made. -/
structure Building where
  nodes : Nodes
  /-- What the nodes stand for that have been met. -/
  refs : Array (Option Ref)
  /-- The collections that have been filled, under the numbers of their nodes. -/
  filled : Array (Option Collection)
  /-- The nodes of collections that are still empty. -/
  waiting : List Nat := []

namespace Building

/-- The start of making the data of a document. -/
def start (nodes : Nodes) : Building :=
  { nodes, refs := .replicate nodes.size none, filled := .replicate nodes.size none }

/-- What a node stands for. -/
def meet (b : Building) (id : Nat) : Except Fault (Ref × Building) :=
  match b.refs[id]?.join with
  | some r => .ok (r, b)
  | none =>
    if (b.nodes.tagOf id).isCollection then
      let r := Ref.collection id
      .ok (r, { b with refs := b.refs.setIfInBounds id (some r), waiting := b.waiting ++ [id] })
    else do
      let r := Ref.datum (← b.nodes.scalar id)
      return (r, { b with refs := b.refs.setIfInBounds id (some r) })

/-- What the items of a sequence stand for. -/
def meetItems (b : Building) : List Nat → Except Fault (List Ref × Building)
  | [] => .ok ([], b)
  | id :: ids => do
    let (r, b) ← b.meet id
    let (rs, b) ← b.meetItems ids
    return (r :: rs, b)

/-- The entries of a mapping on top of those made so far; a collection cannot be a key. -/
def meetEntries (made : List (Ref × Ref)) (b : Building) :
    List (Nat × Nat) → Except Fault (List (Ref × Ref) × Building)
  | [] => .ok (made, b)
  | (k, v) :: rest => do
    let (key, b) ← b.meet k
    if key matches .collection _ then throw .malformed
    let (value, b) ← b.meet v
    meetEntries (Ref.put key value made) b rest

/-- The pairs that a sequence of mappings with one entry each stands for. -/
def meetPairs (b : Building) : List Nat → Except Fault (List (Ref × Ref) × Building)
  | [] => .ok ([], b)
  | id :: ids =>
    match b.nodes.contentOf id with
    | .mapping [(k, v)] => do
      let (key, b) ← b.meet k
      let (value, b) ← b.meet v
      let (rest, b) ← b.meetPairs ids
      return ((key, value) :: rest, b)
    | _ => .error .malformed

/-- What the collection of a node holds. -/
def contents (b : Building) (id : Nat) : Except Fault (Collection × Building) :=
  match b.nodes.tagOf id, b.nodes.contentOf id with
  | .seq, .sequence items => do
    let (rs, b) ← b.meetItems items
    return (.list rs, b)
  | .omap, .sequence items | .pairs, .sequence items => do
    let (es, b) ← b.meetPairs items
    return (.pairs es, b)
  | .map, .mapping _ => do
    let nodes ← b.nodes.flatten id
    let (es, b) ← meetEntries [] { b with nodes } (nodes.entriesOf id)
    return (.map es, b)
  | .set, .mapping _ => do
    let nodes ← b.nodes.flatten id
    let (es, b) ← meetEntries [] { b with nodes } (nodes.entriesOf id)
    return (.set (es.map (·.1)), b)
  | _, _ => .error .malformed

/-- Fills the collections that wait, in order. Each node waits once. -/
def fillAll : (fuel : Nat) → Building → Except Fault Building
  | 0, b => .ok b
  | fuel + 1, b =>
    match b.waiting with
    | [] => .ok b
    | id :: rest => do
      let (c, b) ← contents { b with waiting := rest } id
      fillAll fuel { b with filled := b.filled.setIfInBounds id (some c) }

/-- The datum of a reference, unfolded to a depth. -/
def unfold (b : Building) : (depth : Nat) → Ref → Datum
  | _, .datum d => d
  | 0, .collection _ => .deeper
  | depth + 1, .collection id =>
    match b.filled[id]?.join with
    | none => .deeper
    | some (.list items) => .list (items.map (b.unfold depth))
    | some (.map entries) => .map (entries.map fun (k, v) => (b.unfold depth k, b.unfold depth v))
    | some (.set members) => .set (members.map (b.unfold depth))
    | some (.pairs items) => .list (items.map fun (k, v) => .list [b.unfold depth k, b.unfold depth v])

end Building

/-- The data of a document to a depth. -/
def Document.data (d : Document) (depth : Nat) : Except Fault Datum := do
  let (root, b) ← (Building.start d.nodes).meet d.root
  let b ← b.fillAll (d.nodes.size + 1)
  return b.unfold depth root

/-- The data of the one document in a text to a depth, null if the text holds none. -/
def load (depth : Nat) (text : String) : Except Fault Datum := do
  match ← Document.ofTokens? (tokens text.toList) with
  | none => return .null
  | some d => d.data depth

end DartSurvey.Yaml
