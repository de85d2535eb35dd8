import DartSurvey.Number.Arithmetic
import DartSurvey.Number.Written
import DartSurvey.Text.Base64
import DartSurvey.Yaml.Node

/-! # Data of a document

What the nodes of a document stand for. `Datum.ofScalar` reads a scalar by its tag, and `Datum.truthy` and
`Datum.written?` treat data the way reports treat values: what is empty counts as false, and a text is
written as it is.
-/

namespace DartSurvey.Yaml

open Text (Glyph Wide)

/-- What a node stands for. -/
inductive Datum where
  | null
  | bool (b : Bool)
  | int (n : Int)
  | real (x : Binary64)
  | text (w : Wide)
  | bytes (bs : List UInt8)
  | time (stamp : Stamp)
  | list (items : List Datum)
  | map (entries : List (Datum × Datum))
  | set (members : List Datum)
  /-- A collection that lies deeper than was asked for. -/
  | deeper
deriving Inhabited

namespace Datum

/-- Whether a datum counts as true. -/
def truthy : Datum → Bool
  | .null => false
  | .bool b => b
  | .int n => n != 0
  | .real x => !x.isZero
  | .text w => !w.isEmpty
  | .bytes bs => !bs.isEmpty
  | .list items => !items.isEmpty
  | .map entries => !entries.isEmpty
  | .set members => !members.isEmpty
  | .time _ | .deeper => true

/-- Whether two keys are the same. -/
def sameKey : Datum → Datum → Bool
  | .text a, .text b => a == b
  | .null, .null => true
  | .bool a, .bool b => a == b
  | .int a, .int b => a == b
  | .real a, .real b => a.bits == b.bits
  | .bytes a, .bytes b => a == b
  | .time a, .time b => a == b
  | _, _ => false

/-- The value under a key that is a text. -/
def lookup (key : String) : List (Datum × Datum) → Option Datum
  | [] => none
  | (.text k, v) :: rest => if k == Wide.ofString key then some v else lookup key rest
  | _ :: rest => lookup key rest

/-! ## The text of a datum -/

/-- A byte as it stands between quotes of the kind `mark`. -/
def quotedByte (mark : Char) (b : UInt8) : List Char :=
  let c := Char.ofNat b.toNat
  if c == mark || c == '\\' then ['\\', c]
  else if c == '\t' then ['\\', 't']
  else if c == '\n' then ['\\', 'n']
  else if c == '\r' then ['\\', 'r']
  else if ' ' ≤ c && c ≤ '~' then [c]
  else '\\' :: 'x' :: Text.hexDigits 2 b.toNat

/-- Bytes in quotes. -/
def quotedBytes (bs : List UInt8) : String :=
  let mark := Text.quoteMark (bs.map fun b => Char.ofNat b.toNat)
  "b" ++ String.ofList (mark :: bs.flatMap (quotedByte mark) ++ [mark])

/-- The text of a datum that can be a key, where other data have an empty one; nothing for a number with too
many digits to be written. -/
def written? : Datum → Option Wide
  | .null => some (.ofString "None")
  | .bool true => some (.ofString "True")
  | .bool false => some (.ofString "False")
  | .int n => (Numeral.written? n).map .ofString
  | .real x => some (.ofString x.written)
  | .text w => some w
  | .bytes bs => some (.ofString (quotedBytes bs))
  | .time t => some (.ofString t.text)
  | .list _ | .map _ | .set _ | .deeper => some []

/-- Whether a datum is a text, a number or a truth value. -/
def isScalar : Datum → Bool
  | .bool _ | .int _ | .real _ | .text _ => true
  | _ => false

/-! ## Scalars -/

/-- The digits of a number without the joints between them. -/
def dropJoints (w : Wide) : Wide := w.filter (· != .char '_')

/-- The pieces of a text between colons. -/
def colonPieces : Wide → List Wide
  | [] => [[]]
  | g :: w =>
    if g == .char ':' then [] :: colonPieces w
    else
      match colonPieces w with
      | [] => [[g]]
      | p :: ps => (g :: p) :: ps

/-- A sign in front of a text, and what follows it. -/
def sign : Wide → Bool × Wide
  | .char '-' :: w => (true, w)
  | .char '+' :: w => (false, w)
  | w => (false, w)

/-- A whole number in a base. -/
def integerOf (base : Nat) (w : Wide) : Except Fault Int :=
  match Numeral.integer base w.marked with
  | .ok n => .ok n
  | .error .malformed => .error (.noSuchValue (.integer base w))
  | .error (.tooLong digits) => .error (.noSuchValue (.longInteger digits))

/-- The whole number a scalar stands for: to the base two, eight, sixteen, sixty or ten, by its form. -/
def readInt (text : Wide) : Except Fault Int := do
  let w := dropJoints text
  if w.isEmpty then throw .noDigits
  let (negative, w) := sign w
  let n ← match w with
    | [] => throw .noDigits
    | [.char '0'] => pure 0
    | .char '0' :: .char 'b' :: ds => integerOf 2 ds
    | .char '0' :: .char 'x' :: ds => integerOf 16 ds
    | .char '0' :: _ => integerOf 8 w
    | w =>
      if w.contains (.char ':') then
        ((colonPieces w).mapM (integerOf 10)).map fun ns => ns.foldl (fun n d => n * 60 + d) 0
      else integerOf 10 w
  return if negative then -n else n

/-- A floating point number. -/
def realOf (w : Wide) : Except Fault Binary64 :=
  match Numeral.real? w.marked with
  | some x => .ok x
  | none => .error (.noSuchValue (.real w))

/-- The sum of numbers worth 1, 60, 3600 and so on, from the first. A worth that is no floating point number
itself cannot be used. -/
def sumSixties (weight : Nat) (sum : Binary64) : List Binary64 → Except Fault Binary64
  | [] => .ok sum
  | x :: xs =>
    let factor := Binary64.ofFraction false weight 1
    if factor.isInfinite then .error (.tooLarge .weight)
    else sumSixties (weight * 60) (sum.add (x.times factor)) xs

/-- The floating point number a scalar stands for. -/
def readReal (text : Wide) : Except Fault Binary64 := do
  let w := (dropJoints text).lower
  if w.isEmpty then throw .noDigits
  let (negative, w) := sign w
  let x ←
    if w == .ofString ".inf" then pure (Binary64.infinity false)
    else if w == .ofString ".nan" then pure Binary64.nan
    else if w.contains (.char ':') then do
      sumSixties 1 (.pack false 0 0) (← (colonPieces w).mapM realOf).reverse
    else realOf w
  return if negative then x.negate else x

/-- The truth value a word stands for. -/
def readTruth (text : Wide) : Except Fault Bool :=
  let word := text.lower
  if (["yes", "true", "on"].map Wide.ofString).contains word then .ok true
  else if (["no", "false", "off"].map Wide.ofString).contains word then .ok false
  else .error (.noTruthValue word)

/-- The date or time a scalar stands for. -/
def readTime (text : Wide) : Except Fault Stamp :=
  match Stamp.read? (Tag.dropFinalBreak text.marked) with
  | none => .error .noTime
  | some s =>
    match s.impossible? with
    | some why => .error (.noSuchValue why)
    | none => .ok s

/-- The bytes a scalar stands for. -/
def readBytes (text : Wide) : Except Fault (List UInt8) :=
  match text.chars? with
  | none => .error .malformed
  | some cs =>
    if cs.all fun c => c.toNat < 128 then
      match Text.Base64.decode? cs with
      | some bs => .ok bs
      | none => .error .malformed
    else .error .malformed

/-- What a text stands for under the tag of a scalar. -/
def ofScalar (tag : Tag) (text : Wide) : Except Fault Datum :=
  match tag with
  | .null => .ok .null
  | .bool => (readTruth text).map .bool
  | .int => (readInt text).map .int
  | .float => (readReal text).map .real
  | .str => .ok (.text text)
  | .timestamp => (readTime text).map .time
  | .binary => (readBytes text).map .bytes
  | _ => .error .malformed

end Datum

end DartSurvey.Yaml
