import DartSurvey.Text.Utf8
import DartSurvey.Yaml.Cursor
import DartSurvey.Yaml.Token

/-! # Names in front of data

Directives, anchors, references and tags: the parts of a YAML text that say how other parts are to be read.
Each reader starts at the mark that introduces the part and returns it with the position after it.
-/

namespace DartSurvey.Yaml

/-- Whether a character may stand in the name of a directive, an anchor or a handle. -/
def isNameChar (c : Char) : Bool := c.isAlphanum || c == '-' || c == '_'

/-- Whether a character may stand in a tag as it is. -/
def isUriChar (c : Char) : Bool := c.isAlphanum || "-;/?:@&=+$,_.!~*'()[]".toList.contains c

/-- A name that is not empty, and the position after it. -/
def readName (c : Cursor) : Except Fault (String × Cursor) :=
  let name := c.run isNameChar
  if name.isEmpty then .error .malformed else .ok (String.ofList name, c.forward name.length)

/-! ## Tags -/

/-- The bytes written as a percent sign and two digits each from here on. -/
def escapedBytes : List Char → Except Fault (List UInt8)
  | '%' :: a :: b :: rest =>
    match hexNumber? [a, b] with
    | none => .error .malformed
    | some n => (escapedBytes rest).map (n.toUInt8 :: ·)
  | '%' :: _ => .error .malformed
  | _ => .ok []

/-- The characters of a tag from here on, and the position after them. Escaped bytes are read as UTF-8. -/
def uriText : (fuel : Nat) → Cursor → Except Fault (List Char × Cursor)
  | 0, c => .ok ([], c)
  | fuel + 1, c =>
    if c.here == '%' then
      match escapedBytes c.rest with
      | .error f => .error f
      | .ok bytes =>
        match Text.Utf8.decode bytes with
        | .error _ => .error .malformed
        | .ok text => (uriText fuel (c.forward (3 * bytes.length))).map fun (more, c) => (text ++ more, c)
    else
      let plain := c.run isUriChar
      if plain.isEmpty then .ok ([], c)
      else (uriText fuel (c.forward plain.length)).map fun (more, c) => (plain ++ more, c)

/-- The part of a tag after its handle, which is not empty. -/
def readUri (c : Cursor) : Except Fault (String × Cursor) :=
  if isUriChar c.here || c.here == '%' then
    (uriText (c.rest.length + 1) c).map fun (text, c) => (String.ofList text, c)
  else .error .malformed

/-- A handle: an exclamation mark, alone in front of a space, or closed by a second one. -/
def readHandle (c : Cursor) : Except Fault (String × Cursor) :=
  if c.here != '!' then .error .malformed
  else if c.peek 1 == ' ' then .ok ("!", c.step)
  else
    let name := c.step.run isNameChar
    let c := c.step.forward name.length
    if c.here == '!' then .ok ("!" ++ String.ofList name ++ "!", c.step) else .error .malformed

/-- Whether a second exclamation mark follows before the next space or line end. -/
def hasHandle (c : Cursor) : Bool := (c.step.run (!isSpaceOrEnd ·)).contains '!'

/-- A tag. -/
def readTag (c : Cursor) : Except Fault (Token × Cursor) := do
  let (token, c) ←
    if c.peek 1 == '<' then do
      let (uri, c) ← readUri (c.forward 2)
      if c.here != '>' then throw .malformed
      pure (Token.tag none uri, c.step)
    else if isGap (c.peek 1) then pure (Token.tag none "!", c.step)
    else do
      let (handle, c) ← if hasHandle c then readHandle c else pure ("!", c.step)
      let (uri, c) ← readUri c
      pure (Token.tag (some handle) uri, c)
  if isSpaceOrEnd c.here then return (token, c) else throw .malformed

/-! ## Anchors and references -/

/-- The name of an anchor or of a reference to one. -/
def readAnchor (c : Cursor) : Except Fault (String × Cursor) := do
  let (name, c) ← readName c.step
  if isGap c.here || "?:,]\x7d%@\x60".toList.contains c.here then return (name, c) else throw .malformed

/-! ## Directives -/

/-- A number in a version, and the position after it. -/
def readVersionNumber (c : Cursor) : Except Fault (Nat × Cursor) :=
  let digits := c.run Char.isDigit
  match Numeral.integer 10 digits with
  | .ok n => .ok (n.toNat, c.forward digits.length)
  | .error (.tooLong n) => .error (.noSuchValue (.longInteger n))
  | .error .malformed => .error .malformed

/-- What a version directive says. -/
def readVersion (c : Cursor) : Except Fault (Directive × Cursor) := do
  let (major, c) ← readVersionNumber (c.skip (· == ' '))
  if c.here != '.' then throw .malformed
  let (_, c) ← readVersionNumber c.step
  if isSpaceOrEnd c.here then return (.version major, c) else throw .malformed

/-- What a directive for a handle says. -/
def readTagHandle (c : Cursor) : Except Fault (Directive × Cursor) := do
  let (handle, c) ← readHandle (c.skip (· == ' '))
  if c.here != ' ' then throw .malformed
  let (start, c) ← readUri (c.skip (· == ' '))
  if isSpaceOrEnd c.here then return (.tagHandle handle start, c) else throw .malformed

/-- A directive with the line it stands on. -/
def readDirective (c : Cursor) : Except Fault (Directive × Cursor) := do
  let (name, c) ← readName c.step
  if !isSpaceOrEnd c.here then throw .malformed
  let (directive, c) ←
    if name == "YAML" then readVersion c
    else if name == "TAG" then readTagHandle c
    else pure (Directive.other, c.skip (!isLineEnd ·))
  let c := (c.skip (· == ' ')).skipComment
  if isLineEnd c.here then return (directive, c.lineBreak.2) else throw .malformed

end DartSurvey.Yaml
