import DartSurvey.Number.Written
import DartSurvey.Text.Quoted

/-! # Data values

The values a stored report is made of: null, truth values, whole and floating point numbers, texts,
lists, and objects whose entries keep their order. `Value.shown` is the text of a value, in which texts
nested in a list or an object are quoted; `Value.same` is equality of data, where numbers compare by
amount, truth values count as 0 and 1, and the order of an object's entries does not matter.

Values are the data of JSON, where no whole number has more than `Numeral.maxDigits` digits (`Json.parse`). So
every whole number here can be written, and `shown` has no case for one that is too long.
-/

namespace DartSurvey

/-- A data value. -/
inductive Value where
  | null
  | bool (b : Bool)
  | int (n : Int)
  | real (x : Binary64)
  | text (s : String)
  | list (items : List Value)
  | object (entries : List (String × Value))
deriving Inhabited

namespace Value

/-- The text or null of an optional text. -/
def ofText? : Option String → Value
  | none => .null
  | some s => .text s

/-- The value under a key, if the entries have the key. -/
def lookup (key : String) : List (String × Value) → Option Value
  | [] => none
  | (k, v) :: rest => if k == key then some v else lookup key rest

/-- Whether a value counts as true: all do but null, false, the zeros and what is empty. -/
def truthy : Value → Bool
  | .null => false
  | .bool b => b
  | .int n => n != 0
  | .real x => !x.isZero
  | .text s => s != ""
  | .list items => !items.isEmpty
  | .object entries => !entries.isEmpty

/-! ## The text of a value -/

/-- Texts with a comma and a space between neighbours. -/
def commaSeparated (parts : List String) : String := String.intercalate ", " parts

mutual

/-- The text of a value inside a list or an object. -/
def nested : Value → String
  | .null => "None"
  | .bool true => "True"
  | .bool false => "False"
  | .int n => toString n
  | .real x => x.written
  | .text s => Text.quoted s
  | .list items => "[" ++ commaSeparated (nestedItems items) ++ "]"
  | .object entries => "\x7b" ++ commaSeparated (nestedEntries entries) ++ "\x7d"

/-- The texts of the items of a list. -/
def nestedItems : List Value → List String
  | [] => []
  | v :: vs => nested v :: nestedItems vs

/-- The texts of the entries of an object. -/
def nestedEntries : List (String × Value) → List String
  | [] => []
  | (k, v) :: rest => (Text.quoted k ++ ": " ++ nested v) :: nestedEntries rest

end

/-- The text of a value. -/
def shown : Value → String
  | .text s => s
  | v => nested v

/-! ## Equality of data -/

/-- The whole number a value counts as in comparisons. -/
def asInt? : Value → Option Int
  | .bool b => some (if b then 1 else 0)
  | .int n => some n
  | .real x => x.toInt?
  | _ => none

/-- Equality of two values that are not containers. -/
def sameScalar : Value → Value → Bool
  | .null, .null => true
  | .text a, .text b => a == b
  | .real x, .real y => x.equal y
  | a, b =>
    match a.asInt?, b.asInt? with
    | some m, some n => m == n
    | _, _ => false

mutual

/-- Equality of data. -/
def same : Value → Value → Bool
  | .list xs, .list ys => sameItems xs ys
  | .object xs, .object ys => xs.length == ys.length && sameEntries xs ys
  | a, b => sameScalar a b

/-- Equality of two lists, item by item. -/
def sameItems : List Value → List Value → Bool
  | [], [] => true
  | x :: xs, y :: ys => same x y && sameItems xs ys
  | _, _ => false

/-- Whether every entry of the first object is in the second. -/
def sameEntries : List (String × Value) → List (String × Value) → Bool
  | [], _ => true
  | (k, v) :: rest, ys =>
    (match lookup k ys with
      | some w => same v w
      | none => false) && sameEntries rest ys

end

end Value

end DartSurvey
