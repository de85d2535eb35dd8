import DartSurvey.Number.Numeral
import DartSurvey.Yaml.Token

/-! # Dates and times

A date is a year of four digits, a month and a day. A time of day may follow, with a fraction of a second
and a distance from the zero meridian. `Stamp.read?` recognises the form, and `Stamp.impossible?` says whether the
calendar has such a time.
-/

namespace DartSurvey.Yaml

/-- A time of day. -/
structure Clock where
  hour : Nat
  minute : Nat
  second : Nat
  micros : Nat
  /-- The distance from the zero meridian in minutes. -/
  offset : Option Int
deriving DecidableEq

/-- A date, with a time of day if one is given. -/
structure Stamp where
  year : Nat
  month : Nat
  day : Nat
  /-- Whether month and day have two digits. -/
  padded : Bool
  clock : Option Clock
deriving DecidableEq

namespace Stamp

/-! ## The form -/

/-- A number of at least `least` and at most `most` digits, how many digits it has, and what follows. -/
def number? (least most : Nat) (cs : List Char) : Option (Nat × Nat × List Char) :=
  let ds := (cs.take most).takeWhile Char.isDigit
  if least ≤ ds.length then some (Numeral.valueOf 10 ds, ds.length, cs.drop ds.length) else none

/-- A number of at least `least` and at most `most` digits after a character. -/
def after? (mark : Char) (least most : Nat) : List Char → Option (Nat × Nat × List Char)
  | c :: cs => if c == mark then number? least most cs else none
  | [] => none

/-- The distance from the zero meridian at the end of a time. -/
def offset? (cs : List Char) : Option (Option Int) :=
  if cs.isEmpty then some none
  else
    match cs.dropWhile fun c => c == ' ' || c == '\t' with
    | ['Z'] => some (some 0)
    | s :: cs =>
      if s == '-' || s == '+' then do
        let (hours, _, cs) ← number? 1 2 cs
        let minutes ← match cs with
          | [] => some 0
          | cs => do
            let (n, _, cs) ← after? ':' 2 2 cs
            if cs.isEmpty then some n else none
        let total : Int := hours * 60 + minutes
        return some (if s == '-' then -total else total)
      else none
    | [] => none

/-- The millionths of a second that the digits of a fraction make; further digits do not count. -/
def micros (digits : List Char) : Nat :=
  ((digits ++ List.replicate 6 '0').take 6).foldl (fun n d => n * 10 + (d.toNat - 48)) 0

/-- The time of day after a date. -/
def clock? (cs : List Char) : Option Clock := do
  let cs ← match cs with
    | 'T' :: cs | 't' :: cs => some cs
    | ' ' :: _ | '\t' :: _ => some (cs.dropWhile fun c => c == ' ' || c == '\t')
    | _ => none
  let (hour, _, cs) ← number? 1 2 cs
  let (minute, _, cs) ← after? ':' 2 2 cs
  let (second, _, cs) ← after? ':' 2 2 cs
  let (places, cs) := match cs with
    | '.' :: cs => (cs.takeWhile Char.isDigit, cs.dropWhile Char.isDigit)
    | cs => ([], cs)
  return { hour, minute, second, micros := micros places, offset := ← offset? cs }

/-- The date and time a text has the form of. -/
def read? (cs : List Char) : Option Stamp := do
  let (year, _, cs) ← number? 4 4 cs
  let (month, width, cs) ← after? '-' 1 2 cs
  let (day, width', cs) ← after? '-' 1 2 cs
  let padded := width == 2 && width' == 2
  if cs.isEmpty then return { year, month, day, padded, clock := none }
  return { year, month, day, padded, clock := some (← clock? cs) }

/-- Whether a text is read as a time where nothing else says so: a date alone has padded numbers. -/
def isImplied (s : Stamp) : Bool := s.padded || s.clock.isSome

/-! ## The calendar -/

/-- Whether a year has 366 days. -/
def isLeap (year : Nat) : Bool := year % 4 == 0 && (year % 100 != 0 || year % 400 == 0)

/-- The number of days of a month. -/
def daysOf (year month : Nat) : Nat :=
  if month == 2 then (if isLeap year then 29 else 28)
  else if [4, 6, 9, 11].contains month then 30
  else 31

/-- The first thing that makes a date or time impossible. -/
def impossible? (s : Stamp) : Option Impossible :=
  let distance : Option Impossible := (s.clock.bind (·.offset)).bind fun m =>
    if 1440 ≤ m.natAbs then some (.offset m) else none
  let date : Option Impossible :=
    if s.year == 0 then some (.year s.year)
    else if s.month == 0 || 12 < s.month then some .month
    else if s.day == 0 || daysOf s.year s.month < s.day then some .day
    else none
  let time : Option Impossible := s.clock.bind fun c =>
    if 23 < c.hour then some .hour
    else if 59 < c.minute then some .minute
    else if 59 < c.second then some .second
    else none
  distance.or (date.or time)

/-! ## The text -/

/-- A number in at least `width` digits. -/
def padTo (width n : Nat) : String :=
  let ds := Nat.toDigits 10 n
  String.ofList (List.replicate (width - ds.length) '0' ++ ds)

/-- The text of a distance from the zero meridian. -/
def offsetText (m : Int) : String :=
  (if m < 0 then "-" else "+") ++ padTo 2 (m.natAbs / 60) ++ ":" ++ padTo 2 (m.natAbs % 60)

/-- The text of a time of day. -/
def clockText (c : Clock) : String :=
  padTo 2 c.hour ++ ":" ++ padTo 2 c.minute ++ ":" ++ padTo 2 c.second
    ++ (if c.micros == 0 then "" else "." ++ padTo 6 c.micros)
    ++ (match c.offset with
      | none => ""
      | some m => offsetText m)

/-- The text of a date or time. -/
def text (s : Stamp) : String :=
  padTo 4 s.year ++ "-" ++ padTo 2 s.month ++ "-" ++ padTo 2 s.day
    ++ (match s.clock with
      | none => ""
      | some c => " " ++ clockText c)

end Stamp

end DartSurvey.Yaml
