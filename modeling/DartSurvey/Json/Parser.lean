import DartSurvey.Number.Numeral
import DartSurvey.Value

/-! # Reading JSON

`Json.parse` reads one value and nothing after it but blanks. A number with a fraction or an exponent is
a floating point number and any other one a whole number, which has at most `Numeral.maxDigits` digits; of
entries with the same key the last one counts, at the place of the first. Inside, the depth of the recursion
is bounded by a number taken from the length of the text.
-/

namespace DartSurvey.Json

/-- The text after the blanks at its start. -/
def skipBlanks (cs : List Char) : List Char :=
  cs.dropWhile fun c => c == ' ' || c == '\n' || c == '\r' || c == '\t'

/-- The value of a hexadecimal digit. -/
def hexValue? (c : Char) : Option Nat :=
  if '0' ≤ c ∧ c ≤ '9' then some (c.toNat - 48)
  else if 'a' ≤ c ∧ c ≤ 'f' then some (c.toNat - 87)
  else if 'A' ≤ c ∧ c ≤ 'F' then some (c.toNat - 55)
  else none

/-- The number that four hexadecimal digits stand for. -/
def unit? (a b c d : Char) : Option Nat := do
  let a ← hexValue? a
  let b ← hexValue? b
  let c ← hexValue? c
  let d ← hexValue? d
  return ((a * 16 + b) * 16 + c) * 16 + d

/-- The character that follows a backslash in a short escape. -/
def shortEscape? : Char → Option Char
  | '"' => some '"'
  | '\\' => some '\\'
  | '/' => some '/'
  | 'n' => some '\n'
  | 'r' => some '\r'
  | 't' => some '\t'
  | 'b' => some '\x08'
  | 'f' => some '\x0c'
  | _ => none

/-- The text up to the closing quote, and what follows the quote. -/
def string : List Char → Option (List Char × List Char)
  | [] => none
  | '"' :: cs => some ([], cs)
  | '\\' :: 'u' :: a :: b :: c :: d :: cs =>
    match unit? a b c d with
    | none => none
    | some high =>
      if 0xd800 ≤ high ∧ high < 0xdc00 then
        match cs with
        | '\\' :: 'u' :: e :: f :: g :: h :: cs =>
          match unit? e f g h with
          | none => none
          | some low =>
            if 0xdc00 ≤ low ∧ low < 0xe000 then
              (string cs).map fun (s, rest) =>
                (Char.ofNat (0x10000 + (high - 0xd800) * 0x400 + (low - 0xdc00)) :: s, rest)
            else none
        | _ => none
      else if 0xdc00 ≤ high ∧ high < 0xe000 then none
      else (string cs).map fun (s, rest) => (Char.ofNat high :: s, rest)
  | '\\' :: c :: cs =>
    match shortEscape? c with
    | none => none
    | some d => (string cs).map fun (s, rest) => (d :: s, rest)
  | c :: cs =>
    if c == '\\' || c.toNat < 0x20 then none
    else (string cs).map fun (s, rest) => (c :: s, rest)

/-- The digits at the start of a text, and the rest. -/
def digits (cs : List Char) : List Char × List Char :=
  (cs.takeWhile Char.isDigit, cs.dropWhile Char.isDigit)

/-- The number a run of decimal digits stands for. -/
def decimal (ds : List Char) : Nat := ds.foldl (fun n d => n * 10 + (d.toNat - 48)) 0

/-- The digits after a point, and the rest; nothing without a point. -/
def fraction? : List Char → Option (Option (List Char) × List Char)
  | '.' :: cs =>
    match digits cs with
    | ([], _) => none
    | (ds, rest) => some (some ds, rest)
  | cs => some (none, cs)

/-- The exponent, and the rest; nothing without a mark. -/
def exponent? : List Char → Option (Option Int × List Char)
  | c :: cs =>
    if c == 'e' || c == 'E' then
      let (negative, cs) := match cs with
        | '-' :: cs => (true, cs)
        | '+' :: cs => (false, cs)
        | cs => (false, cs)
      match digits cs with
      | ([], _) => none
      | (ds, rest) => some (some (if negative then -(decimal ds : Int) else decimal ds), rest)
    else some (none, c :: cs)
  | [] => some (none, [])

/-- The number without a sign at the start of a text, and the rest. -/
def unsigned (negative : Bool) (cs : List Char) : Option (Value × List Char) :=
  match digits cs with
  | ([], _) => none
  | (whole, rest) =>
    if whole.length > 1 && whole.head? == some '0' then none
    else
      match fraction? rest with
      | none => none
      | some (frac, rest) =>
        match exponent? rest with
        | none => none
        | some (none, rest) =>
          match frac with
          | none =>
            let n : Int := decimal whole
            if Numeral.maxDigits < whole.length then none else some (.int (if negative then -n else n), rest)
          | some ds =>
            some (.real (Binary64.ofDecimal negative (decimal (whole ++ ds)) (-(ds.length : Int))), rest)
        | some (some e, rest) =>
          let ds := frac.getD []
          some (.real (Binary64.ofDecimal negative (decimal (whole ++ ds)) (e - (ds.length : Int))), rest)

/-- The number at the start of a text, and the rest. -/
def number : List Char → Option (Value × List Char)
  | '-' :: cs => unsigned true cs
  | cs => unsigned false cs

/-- The entries with one more: a key that is there already keeps its place and takes the new value. -/
def put (key : String) (v : Value) : List (String × Value) → List (String × Value)
  | [] => [(key, v)]
  | (k, w) :: rest => if k == key then (k, v) :: rest else (k, w) :: put key v rest

mutual

/-- The value at the start of a text, and the rest; `depth` bounds the recursion. -/
def value : (depth : Nat) → List Char → Option (Value × List Char)
  | 0, _ => none
  | depth + 1, cs =>
    match skipBlanks cs with
    | 'n' :: 'u' :: 'l' :: 'l' :: cs => some (.null, cs)
    | 't' :: 'r' :: 'u' :: 'e' :: cs => some (.bool true, cs)
    | 'f' :: 'a' :: 'l' :: 's' :: 'e' :: cs => some (.bool false, cs)
    | '"' :: cs => (string cs).map fun (s, rest) => (.text (String.ofList s), rest)
    | '[' :: cs =>
      match skipBlanks cs with
      | ']' :: cs => some (.list [], cs)
      | cs => (items depth cs).map fun (vs, rest) => (.list vs, rest)
    | '{' :: cs =>
      match skipBlanks cs with
      | '}' :: cs => some (.object [], cs)
      | cs => (entries depth cs).map fun (es, rest) =>
          (.object (es.foldl (fun acc e => put e.1 e.2 acc) []), rest)
    | cs => number cs

/-- The items up to the closing bracket, and what follows it. -/
def items : (depth : Nat) → List Char → Option (List Value × List Char)
  | 0, _ => none
  | depth + 1, cs =>
    match value depth cs with
    | none => none
    | some (v, rest) =>
      match skipBlanks rest with
      | ',' :: rest => (items depth rest).map fun (vs, rest) => (v :: vs, rest)
      | ']' :: rest => some ([v], rest)
      | _ => none

/-- The entries up to the closing brace, and what follows it. -/
def entries : (depth : Nat) → List Char → Option (List (String × Value) × List Char)
  | 0, _ => none
  | depth + 1, cs =>
    match skipBlanks cs with
    | '"' :: cs =>
      match string cs with
      | none => none
      | some (key, rest) =>
        match skipBlanks rest with
        | ':' :: rest =>
          match value depth rest with
          | none => none
          | some (v, rest) =>
            match skipBlanks rest with
            | ',' :: rest =>
              (entries depth rest).map fun (es, rest) => ((String.ofList key, v) :: es, rest)
            | '}' :: rest => some ([(String.ofList key, v)], rest)
            | _ => none
        | _ => none
    | _ => none

end

/-- The value a text stands for. -/
def parse (s : String) : Option Value :=
  let cs := s.toList
  match value (2 * cs.length + 2) cs with
  | some (v, rest) => if (skipBlanks rest).isEmpty then some v else none
  | none => none

end DartSurvey.Json
