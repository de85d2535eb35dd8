import DartSurvey.Yaml.Lexer
import DartSurvey.Yaml.Tag

/-! # Nodes

A YAML document is a graph of nodes: scalars, sequences and mappings, each with a tag and a number by which
other nodes hold it. An anchored node may be held in several places, also inside of itself. `ofTokens?` reads
the one document of a text, if the text holds a document at all. Collections may be written inside each other
up to a limit.
-/

namespace DartSurvey.Yaml

/-- What a node consists of. -/
inductive Content where
  | scalar (text : Text.Wide)
  | sequence (items : List Nat)
  | mapping (entries : List (Nat × Nat))
deriving Inhabited

/-- A node of a document. -/
structure Node where
  tag : Tag
  content : Content
deriving Inhabited

/-- The nodes of a document, each under its number. -/
abbrev Nodes := Array Node

/-- A document. -/
structure Document where
  nodes : Nodes
  /-- The number of the outermost node. -/
  root : Nat

namespace Document

/-- How far the tokens of a text have been read. -/
structure Reading where
  tokens : List Token
  nodes : Nodes := #[]
  /-- The anchors read so far, with the numbers of their nodes. -/
  anchors : List (String × Nat) := []
  /-- The number of collections that are open. -/
  depth : Nat := 0

/-- The number of collections that may be open at once. -/
def maxDepth : Nat := 490

/-- The meanings of the handles of tags in a document. -/
abbrev Handles := List (String × String)

/-- The anchor and the tag in front of a node, in either order. -/
structure Properties where
  anchor : Option String := none
  tag : Option String := none

namespace Reading

/-- Why reading cannot go on with the next token. -/
def fault (r : Reading) : Fault :=
  match r.tokens with
  | .fault f :: _ => f
  | _ => .malformed

/-- Whether the next token satisfies a test. -/
def next (r : Reading) (p : Token → Bool) : Bool := (r.tokens.head?.map p).getD false

/-- The position after the next token. -/
def pass (r : Reading) : Reading := { r with tokens := r.tokens.drop 1 }

/-- Passes a token that has to come next. -/
def expect (r : Reading) (t : Token) : Except Fault Reading :=
  if r.next (· == t) then .ok r.pass else .error r.fault

/-- Adds a node, and returns its number. -/
def add (r : Reading) (n : Node) : Nat × Reading := (r.nodes.size, { r with nodes := r.nodes.push n })

/-- Adds a node under its anchor; each anchor is used once. -/
def begin (r : Reading) (anchor : Option String) (n : Node) : Except Fault (Nat × Reading) :=
  let (id, r) := r.add n
  match anchor with
  | none => .ok (id, r)
  | some name =>
    if r.anchors.any (·.1 == name) then .error .malformed
    else .ok (id, { r with anchors := (name, id) :: r.anchors })

/-- Adds the node of an empty place. -/
def addEmpty (r : Reading) : Nat × Reading := r.add ⟨.null, .scalar []⟩

/-- Gives a node its content. -/
def fill (r : Reading) (id : Nat) (content : Content) : Reading :=
  { r with nodes := r.nodes.modify id fun n => { n with content } }

/-- Reads inside of one more collection. -/
def within {α : Type} (r : Reading) (inner : Reading → Except Fault (α × Reading)) :
    Except Fault (α × Reading) :=
  if r.depth < maxDepth then
    (inner { r with depth := r.depth + 1 }).map fun (a, after) => (a, { after with depth := r.depth })
  else .error .endless

/-- The number of the node that a reference stands for. -/
def resolve (r : Reading) (name : String) : Except Fault Nat :=
  match r.anchors.find? (·.1 == name) with
  | some (_, id) => .ok id
  | none => .error .malformed

end Reading

/-- The name a tag stands for. -/
def tagName (handles : Handles) : Option String → String → Except Fault String
  | none, suffix => .ok suffix
  | some handle, suffix =>
    match handles.find? (·.1 == handle) with
    | some (_, start) => .ok (start ++ suffix)
    | none => .error .malformed

/-- Reads the properties of a node. -/
def readProperties (handles : Handles) (r : Reading) : Except Fault (Properties × Reading) :=
  match r.tokens with
  | .anchor a :: .tag h s :: ts => do return (⟨some a, some (← tagName handles h s)⟩, { r with tokens := ts })
  | .anchor a :: ts => .ok (⟨some a, none⟩, { r with tokens := ts })
  | .tag h s :: .anchor a :: ts => do return (⟨some a, some (← tagName handles h s)⟩, { r with tokens := ts })
  -- Whether an anchor follows a tag is asked before the tag is looked up.
  | .tag _ _ :: .fault f :: _ => .error f
  | .tag h s :: ts => do return (⟨none, some (← tagName handles h s)⟩, { r with tokens := ts })
  | _ => .ok ({}, r)

/-- The tag of a scalar. The tag that is a single exclamation mark stands for none. -/
def scalarTag (p : Properties) (plain : Bool) (text : Text.Wide) : Tag :=
  match p.tag with
  | none => if plain then .implied text else .str
  | some name => if name == "!" then .implied text else .ofName name

/-- The tag of a collection that is of the kind `default` unless its properties say otherwise. -/
def collectionTag (p : Properties) (default : Tag) : Tag :=
  match p.tag with
  | none => default
  | some name => if name == "!" then default else .ofName name

/-- Tokens after which an item of a block sequence is empty. -/
def endsItem (indentless : Bool) : Token → Bool
  | .blockEntry | .blockEnd => true
  | .key | .value => indentless
  | _ => false

/-- Tokens before which a key or a value of a block mapping is empty. -/
def endsBlockPart : Token → Bool
  | .key | .value | .blockEnd => true
  | _ => false

/-- Tokens before which a key in a flow collection that ends with `close` is empty. -/
def endsFlowKey (close : Token) (t : Token) : Bool := t == .value || t == .flowEntry || t == close

/-- Tokens before which a value in a flow collection that ends with `close` is empty. -/
def endsFlowValue (close : Token) (t : Token) : Bool := t == .flowEntry || t == close

/-- Reads a sequence: its node begins before its items. -/
def readSequence (p : Properties) (items : Reading → Except Fault (List Nat × Reading)) (r : Reading) :
    Except Fault (Nat × Reading) := do
  let (id, r) ← r.begin p.anchor ⟨collectionTag p .seq, .sequence []⟩
  let (ns, r) ← r.within items
  return (id, r.fill id (.sequence ns))

/-- Reads a mapping: its node begins before its entries. -/
def readMapping (p : Properties) (entries : Reading → Except Fault (List (Nat × Nat) × Reading)) (r : Reading) :
    Except Fault (Nat × Reading) := do
  let (id, r) ← r.begin p.anchor ⟨collectionTag p .map, .mapping []⟩
  let (es, r) ← r.within entries
  return (id, r.fill id (.mapping es))

mutual

/-- Reads a node. Block collections are allowed if `block` is set, and a sequence that is not indented more
than the mapping around it if `indentless` is set. -/
def read (handles : Handles) (block indentless : Bool) : (fuel : Nat) → Reading → Except Fault (Nat × Reading)
  | 0, _ => .error .malformed
  | fuel + 1, r =>
    match r.tokens with
    | .reference name :: ts => (r.resolve name).map fun id => (id, { r with tokens := ts })
    | _ => do
      let (p, r) ← readProperties handles r
      readContent handles block indentless p fuel r

/-- Reads what stands after the properties of a node. -/
def readContent (handles : Handles) (block indentless : Bool) (p : Properties) :
    (fuel : Nat) → Reading → Except Fault (Nat × Reading)
  | 0, _ => .error .malformed
  | fuel + 1, r =>
    match r.tokens, block, indentless with
    | .fault f :: _, _, _ => .error f
    | .blockEntry :: _, _, true => readSequence p (readItems handles true fuel) r
    | .scalar text plain :: _, _, _ => r.pass.begin p.anchor ⟨scalarTag p plain text, .scalar text⟩
    | .flowSequenceStart :: _, _, _ => readSequence p (readFlowItems handles true fuel) r.pass
    | .flowMappingStart :: _, _, _ => readMapping p (readFlowEntries handles true fuel) r.pass
    | .blockSequenceStart :: _, true, _ => readSequence p (readItems handles false fuel) r.pass
    | .blockMappingStart :: _, true, _ => readMapping p (readEntries handles fuel) r.pass
    | _, _, _ =>
      if p.anchor.isSome || p.tag.isSome then r.begin p.anchor ⟨scalarTag p true [], .scalar []⟩
      else .error .malformed

/-- Reads the items of a block sequence. -/
def readItems (handles : Handles) (indentless : Bool) : (fuel : Nat) → Reading → Except Fault (List Nat × Reading)
  | 0, _ => .error .malformed
  | fuel + 1, r => do
    if r.next (· == .blockEntry) then
      let r := r.pass
      let (n, r) ← if r.next (endsItem indentless) then pure r.addEmpty else read handles true false fuel r
      let (ns, r) ← readItems handles indentless fuel r
      return (n :: ns, r)
    else if indentless then return ([], r)
    else return ([], ← r.expect .blockEnd)

/-- Reads the entries of a block mapping. -/
def readEntries (handles : Handles) : (fuel : Nat) → Reading → Except Fault (List (Nat × Nat) × Reading)
  | 0, _ => .error .malformed
  | fuel + 1, r => do
    if r.next (· == .key) then
      let r := r.pass
      let (k, r) ← if r.next endsBlockPart then pure r.addEmpty else read handles true true fuel r
      let (v, r) ←
        if r.next (· == .value) then
          let r := r.pass
          if r.next endsBlockPart then pure r.addEmpty else read handles true true fuel r
        else pure r.addEmpty
      let (es, r) ← readEntries handles fuel r
      return ((k, v) :: es, r)
    else return ([], ← r.expect .blockEnd)

/-- Reads a key and its value in a flow collection, from the position after the mark of the key. -/
def readFlowPair (handles : Handles) (close : Token) :
    (fuel : Nat) → Reading → Except Fault ((Nat × Nat) × Reading)
  | 0, _ => .error .malformed
  | fuel + 1, r => do
    let (k, r) ← if r.next (endsFlowKey close) then pure r.addEmpty else read handles false false fuel r
    let (v, r) ←
      if r.next (· == .value) then
        let r := r.pass
        if r.next (endsFlowValue close) then pure r.addEmpty else read handles false false fuel r
      else pure r.addEmpty
    return ((k, v), r)

/-- Reads the items of a flow sequence. A key among them stands for a mapping with one entry. -/
def readFlowItems (handles : Handles) (first : Bool) : (fuel : Nat) → Reading → Except Fault (List Nat × Reading)
  | 0, _ => .error .malformed
  | fuel + 1, r => do
    if r.next (· == .flowSequenceEnd) then return ([], r.pass)
    let r ← if first then pure r else r.expect .flowEntry
    if r.next (· == .flowSequenceEnd) then return ([], r.pass)
    let (n, r) ←
      if r.next (· == .key) then
        (r.pass.within (readFlowPair handles .flowSequenceEnd fuel)).map fun (e, r) => r.add ⟨.map, .mapping [e]⟩
      else read handles false false fuel r
    let (ns, r) ← readFlowItems handles false fuel r
    return (n :: ns, r)

/-- Reads the entries of a flow mapping. A node without the mark of a key is a key without a value. -/
def readFlowEntries (handles : Handles) (first : Bool) :
    (fuel : Nat) → Reading → Except Fault (List (Nat × Nat) × Reading)
  | 0, _ => .error .malformed
  | fuel + 1, r => do
    if r.next (· == .flowMappingEnd) then return ([], r.pass)
    let r ← if first then pure r else r.expect .flowEntry
    if r.next (· == .flowMappingEnd) then return ([], r.pass)
    let (e, r) ←
      if r.next (· == .key) then readFlowPair handles .flowMappingEnd fuel r.pass
      else (read handles false false fuel r).map fun (k, r) => ((k, r.nodes.size), r.addEmpty.2)
    let (es, r) ← readFlowEntries handles false fuel r
    return (e :: es, r)

end

/-! ## Documents -/

/-- The handles that every document has. -/
def standardHandles : Handles := [("!", "!"), ("!!", Tag.home)]

/-- The handles that the directives at the start of a document give a meaning, and the tokens after them.
The version is given once at most, and so is the meaning of each handle. -/
def readDirectives (versioned : Bool) (handles : Handles) : List Token → Except Fault (Handles × List Token)
  | .directive (.version major) :: ts =>
    if versioned || major != 1 then .error .malformed else readDirectives true handles ts
  | .directive (.tagHandle h s) :: ts =>
    if handles.any (·.1 == h) then .error .malformed else readDirectives versioned (handles ++ [(h, s)]) ts
  | .directive .other :: ts => readDirectives versioned handles ts
  | ts => .ok (handles, ts)

/-- Tokens before which the content of a document is empty. -/
def endsDocument : Token → Bool
  | .directive _ | .documentStart | .documentEnd | .streamEnd => true
  | _ => false

/-- What follows a document: no second one may. -/
def readEnd (r : Reading) : Except Fault Unit := do
  let rest := r.tokens.dropWhile (· == .documentEnd)
  if rest.head? == some .streamEnd then return ()
  let (_, rest) ← readDirectives false [] rest
  throw ({ r with tokens := rest }).fault

/-- A document from the position where its content starts. -/
def readDocument (handles : Handles) (explicit : Bool) (ts : List Token) : Except Fault Document := do
  let r : Reading := { tokens := ts }
  let (root, r) ←
    if explicit && r.next endsDocument then pure r.addEmpty
    else read handles true false (4 * ts.length + 4) r
  readEnd r
  return ⟨r.nodes, root⟩

/-- The one document that tokens hold, or nothing if they hold no document. -/
def ofTokens? (ts : List Token) : Except Fault (Option Document) := do
  match ts with
  | .streamEnd :: _ => return none
  | .directive _ :: _ | .documentStart :: _ =>
    let (handles, ts) ← readDirectives false [] ts
    let r ← ({ tokens := ts : Reading }).expect .documentStart
    return some (← readDocument (handles ++ standardHandles) true r.tokens)
  | ts => return some (← readDocument standardHandles false ts)

end Document

end DartSurvey.Yaml
