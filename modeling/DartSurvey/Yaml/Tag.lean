import DartSurvey.Json.Parser
import DartSurvey.Yaml.Time

/-! # Tags

A tag says what a node stands for. A plain scalar without a tag has the tag that its form implies
(`Tag.implied`): `yes` is a truth value, `0x1F` and `12:30:45` are whole numbers, `1.` is a floating point
number, and a text of no special form is just a text.
-/

namespace DartSurvey.Yaml

/-- What a node stands for. -/
inductive Tag where
  | null | bool | int | float | str | timestamp | binary
  | seq | map | set | omap | pairs
  /-- The key that merges other mappings into its own. -/
  | merge
  /-- The key of the value of a mapping that stands for a scalar. -/
  | value
  | other (name : String)
deriving DecidableEq, Inhabited

namespace Tag

/-- The start of the names of the known tags. -/
def home : String := "tag:yaml.org,2002:"

/-- The known tags with their names. -/
def known : List (String × Tag) :=
  [("null", .null), ("bool", .bool), ("int", .int), ("float", .float), ("str", .str),
   ("timestamp", .timestamp), ("binary", .binary), ("seq", .seq), ("map", .map), ("set", .set),
   ("omap", .omap), ("pairs", .pairs), ("merge", .merge), ("value", .value)]

/-- The tag of a name. -/
def ofName (name : String) : Tag :=
  match known.find? fun (n, _) => home ++ n == name with
  | some (_, t) => t
  | none => .other name

/-! ## Forms of scalars -/

/-- Whether a character is a digit or a joint between digits. -/
def isDigitOrJoint (c : Char) : Bool := c.isDigit || c == '_'

/-- A text without a sign at its start. -/
def unsigned (cs : List Char) : List Char := (Numeral.sign cs).2

/-- The words for truth values. -/
def truthWords : List String :=
  ["yes", "Yes", "YES", "no", "No", "NO", "true", "True", "TRUE", "false", "False", "FALSE",
   "on", "On", "ON", "off", "Off", "OFF"]

/-- The words for null. -/
def nullWords : List String := ["~", "null", "Null", "NULL", ""]

/-- Whether a text is empty or an exponent with a sign. -/
def isExponentOrEmpty : List Char → Bool
  | [] => true
  | e :: s :: d :: ds => (e == 'e' || e == 'E') && (s == '-' || s == '+') && (d :: ds).all Char.isDigit
  | _ => false

/-- What follows one or more colons, each with a number below sixty, if the text goes on like that. -/
def afterSixties : (fuel : Nat) → List Char → Option (List Char)
  | 0, _ => none
  | fuel + 1, ':' :: a :: b :: cs =>
    if b.isDigit then
      if '0' ≤ a ∧ a ≤ '5' then (if cs.head? == some ':' then afterSixties fuel cs else some cs) else none
    else if a.isDigit then (if b == ':' then afterSixties fuel (b :: cs) else some (b :: cs))
    else none
  | _, [':', a] => if a.isDigit then some [] else none
  | _, _ => none

/-- Whether a text without a sign is digits, one point, digits, and perhaps an exponent. -/
def isDecimal (cs : List Char) : Bool :=
  match cs.dropWhile isDigitOrJoint with
  | '.' :: rest =>
    (cs.head?.map Char.isDigit).getD false && isExponentOrEmpty (rest.dropWhile isDigitOrJoint)
  | _ => false

/-- Whether a text starts with a point and a digit and goes on as a decimal. -/
def isFraction : List Char → Bool
  | '.' :: d :: rest => d.isDigit && isExponentOrEmpty (rest.dropWhile isDigitOrJoint)
  | _ => false

/-- Whether a text without a sign is a number to the base sixty, where `endsWell` is asked of what follows
the last colon's number and `first` of the first character. -/
def isSixties (first : Char → Bool) (endsWell : List Char → Bool) (cs : List Char) : Bool :=
  (cs.head?.map first).getD false
    && ((afterSixties (cs.length + 1) (cs.dropWhile isDigitOrJoint)).map endsWell).getD false

/-- Whether a text is a point and digits. -/
def isPointAndDigits : List Char → Bool
  | '.' :: cs => cs.all isDigitOrJoint
  | _ => false

/-- Whether a text has the form of a floating point number. -/
def isFloatForm (cs : List Char) : Bool :=
  isDecimal (unsigned cs) || isFraction cs || isSixties Char.isDigit isPointAndDigits (unsigned cs)
    || [".inf", ".Inf", ".INF"].contains (String.ofList (unsigned cs))
    || [".nan", ".NaN", ".NAN"].contains (String.ofList cs)

/-- Whether a text without a sign has the form of a whole number. -/
def isUnsignedIntForm (cs : List Char) : Bool :=
  let filled (p : Char → Bool) (cs : List Char) : Bool := !cs.isEmpty && cs.all fun c => p c || c == '_'
  match cs with
  | ['0'] => true
  | '0' :: 'b' :: ds => filled (fun c => c == '0' || c == '1') ds
  | '0' :: 'x' :: ds => filled (fun c => (Json.hexValue? c).isSome) ds
  | '0' :: ds => filled (fun c => '0' ≤ c && c ≤ '7') ds
  | d :: ds =>
    let leads (c : Char) : Bool := '1' ≤ c && c ≤ '9'
    (leads d && ds.all isDigitOrJoint) || isSixties leads List.isEmpty (d :: ds)
  | [] => false

/-- A text without a line break at its very end. -/
def dropFinalBreak (cs : List Char) : List Char :=
  if cs.getLast? == some '\n' then cs.dropLast else cs

/-- The tag that the form of a plain scalar implies. -/
def implied (text : Text.Wide) : Tag :=
  let cs := dropFinalBreak text.marked
  let s := String.ofList cs
  if cs.isEmpty && !text.isEmpty then .str
  else if truthWords.contains s then .bool
  else if isFloatForm cs then .float
  else if isUnsignedIntForm (unsigned cs) then .int
  else if s == "<<" then .merge
  else if nullWords.contains s then .null
  else if (Stamp.read? cs).any Stamp.isImplied then .timestamp
  else if s == "=" then .value
  else if ["!", "&", "*"].contains s then .other (home ++ "yaml")
  else .str

end Tag

end DartSurvey.Yaml
