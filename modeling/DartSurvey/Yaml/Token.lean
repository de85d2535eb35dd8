import DartSurvey.Number.Numeral
import DartSurvey.Text.Wide

/-! # YAML tokens and faults

The tokens of a YAML text, and the ways in which a text fails to stand for data. Most faults are the same
to a reader of settings: the text is malformed. The others arise when a scalar that has a certain form does
not stand for a value, such as a date that no calendar has.
-/

namespace DartSurvey.Yaml

/-- Why a scalar of a certain form has no value. -/
inductive Impossible where
  | year (n : Nat)
  | month
  | day
  | hour
  | minute
  | second
  /-- A distance from the zero meridian, in minutes, of a day or more. -/
  | offset (minutes : Int)
  | integer (base : Nat) (text : Text.Wide)
  /-- A whole number of this many digits. -/
  | longInteger (digits : Nat)
  | real (text : Text.Wide)
  | codePoint
deriving DecidableEq

/-- The text of a span of time: whole days, and the seconds beyond them. -/
def spanText (minutes : Int) : String :=
  let days := minutes.fdiv 1440
  let seconds := minutes.fmod 1440 * 60
  "datetime.timedelta(days=" ++ toString days ++ (if seconds == 0 then ")" else ", seconds=" ++ toString seconds ++ ")")

/-- The words for a whole number with too many digits to be read or written. -/
def tooManyDigits (detail : String) : String :=
  "Exceeds the limit (" ++ toString Numeral.maxDigits ++ " digits) for integer string conversion" ++ detail
    ++ "; use sys.set_int_max_str_digits() to increase the limit"

/-- A quantity that is too large for what is done with it. -/
inductive Excess where
  /-- The number of a character. -/
  | code
  /-- What a place of a number to the base sixty is worth. -/
  | weight
deriving DecidableEq

/-- The words for a quantity that is too large. -/
def Excess.message : Excess → String
  | .code => "Python int too large to convert to C int"
  | .weight => "int too large to convert to float"

/-- The words for a value that does not exist. -/
def Impossible.message : Impossible → String
  | .year n => "year " ++ toString n ++ " is out of range"
  | .month => "month must be in 1..12"
  | .day => "day is out of range for month"
  | .hour => "hour must be in 0..23"
  | .minute => "minute must be in 0..59"
  | .second => "second must be in 0..59"
  | .offset minutes =>
    "offset must be a timedelta strictly between -timedelta(hours=24) and timedelta(hours=24), not "
      ++ spanText minutes ++ "."
  | .integer base text =>
    "invalid literal for int() with base " ++ toString base ++ ": " ++ String.ofList (text.quoted.toList.take 200)
  | .longInteger digits => tooManyDigits (": value has " ++ toString digits ++ " digits")
  | .real text => "could not convert string to float: " ++ text.quoted
  | .codePoint => "chr() arg not in range(0x110000)"

/-- Why a text does not stand for data. -/
inductive Fault where
  /-- The text is not well-formed, or a tag, a key or a reference in it is not usable. -/
  | malformed
  /-- A scalar has the form of a value that does not exist. -/
  | noSuchValue (why : Impossible)
  /-- A scalar needs a quantity that is too large. -/
  | tooLarge (what : Excess)
  /-- A scalar tagged as a truth value is none. -/
  | noTruthValue (text : Text.Wide)
  /-- A scalar tagged as a time is none. -/
  | noTime
  /-- A mapping is tagged as a time. -/
  | notAText
  /-- A scalar tagged as a number is empty. -/
  | noDigits
  /-- Collections are nested too deeply, or a mapping that stands for a scalar leads back to itself. -/
  | endless
deriving DecidableEq

/-- The message of a fault that has one. -/
def Fault.message? : Fault → Option String
  | .malformed | .noTime | .notAText => none
  | .noSuchValue why => some why.message
  | .tooLarge what => some what.message
  | .noTruthValue text => some text.quoted
  | .noDigits => some "string index out of range"
  | .endless => some "maximum recursion depth exceeded"

/-- A directive. -/
inductive Directive where
  | version (major : Nat)
  | tagHandle (handle start : String)
  | other
deriving DecidableEq

/-- A token. -/
inductive Token where
  | directive (d : Directive)
  | documentStart
  | documentEnd
  | blockSequenceStart
  | blockMappingStart
  | blockEnd
  | flowSequenceStart
  | flowSequenceEnd
  | flowMappingStart
  | flowMappingEnd
  | flowEntry
  | blockEntry
  | key
  | value
  /-- A reference to an anchor. -/
  | reference (name : String)
  | anchor (name : String)
  /-- A tag: its handle, unless it is written out, and what follows the handle. -/
  | tag (handle : Option String) (suffix : String)
  | scalar (text : Text.Wide) (plain : Bool)
  | streamEnd
  /-- The place where reading tokens fails. -/
  | fault (f : Fault)
deriving DecidableEq

end DartSurvey.Yaml
