import DartSurvey.CommandLine.Choice
import DartSurvey.Text.Digit

/-! # Reading a command line

`Request.parse` reads the words of a command line from the left. A long option may be cut short as long as
one option alone starts that way; letters behind a letter option, or behind its equals sign, are further
letter options; a value follows its option, or an equals sign, where `--` stands for the empty value. What is
no option is an operand, and so is everything after `--`. The first operand is the directory. Words that mean
nothing are reported at the end, all together; other mistakes end the reading at once, and so does the option
for help.
-/

namespace DartSurvey.CommandLine

open Report (Format)

/-- What a command line asks for. -/
structure Request where
  directory : Option String := none
  flags : List Switch := []
  format : Option Format := none
  config : Option String := none
  verbose : Bool := false
  logFile : Option String := none
deriving DecidableEq

/-- What is wrong with a command line. -/
inductive Misuse where
  | unrecognized (words : List String)
  | ambiguous (word : String) (names : List String)
  | notAllowedWith (option other : Choice)
  | valueMissing (option : Choice)
  | valueIgnored (option : Choice) (value : String)
deriving DecidableEq

/-- The words for a mistake. -/
def Misuse.message : Misuse → String
  | .unrecognized words => "unrecognized arguments: " ++ String.intercalate " " words
  | .ambiguous word names => "ambiguous option: " ++ word ++ " could match " ++ String.intercalate ", " names
  | .notAllowedWith option other => "argument " ++ option.label ++ ": not allowed with argument " ++ other.label
  | .valueMissing option => "argument " ++ option.label ++ ": expected one argument"
  | .valueIgnored option value =>
    "argument " ++ option.label ++ ": ignored explicit argument " ++ Text.quoted value

/-! ## Kinds of words -/

/-- What stands in the same word behind the name of an option. -/
inductive Tail where
  | nothing
  /-- A value behind an equals sign. -/
  | value (text : String)
  /-- What stands behind a letter option, or behind its equals sign. -/
  | letters (cs : List Char)

/-- A word of a command line. -/
inductive Word where
  | operand (text : String)
  /-- The word after which there are operands only. -/
  | separator
  | option (c : Choice) (tail : Tail)
  /-- A word that looks like an option and is none. -/
  | unknown (text : String)

/-- A word up to its first equals sign, and what follows the sign if there is one. -/
def splitAtEquals (cs : List Char) : String × Option String :=
  let name := cs.takeWhile (· != '=')
  (String.ofList name, if name.length < cs.length then some (String.ofList (cs.drop (name.length + 1))) else none)

/-- The tail of an option whose name is given in full. -/
def tailOf (name : String) : Option String → Tail
  | none => .nothing
  | some v => if name.length == 2 && v != "" then .letters v.toList else .value v

/-- The options a word that names none in full may stand for, each with its name. -/
def candidates (cs : List Char) : List (String × Word) :=
  match cs with
  | '-' :: '-' :: _ =>
    let (start, value) := splitAtEquals cs
    Choice.byName.filterMap fun (name, c) =>
      if start.toList.isPrefixOf name.toList then
        some (name, .option c (match value with
          | none => .nothing
          | some v => .value v))
      else none
  | '-' :: letter :: rest =>
    Choice.byName.filterMap fun (name, c) =>
      if name == String.ofList ['-', letter] then some (name, .option c (.letters rest)) else none
  | _ => []

/-- Whether a word is a negative number. -/
def isNegativeNumber (cs : List Char) : Bool :=
  match cs with
  | '-' :: rest =>
    let rest := if rest.getLast? == some '\n' then rest.dropLast else rest
    match rest.dropWhile Text.isDecimalDigit with
    | [] => !rest.isEmpty
    | '.' :: places => !places.isEmpty && places.all Text.isDecimalDigit
    | _ => false
  | _ => false

/-- The kind of a word before the separator. -/
def Word.ofString (s : String) : Except Misuse Word :=
  let cs := s.toList
  if cs.head? != some '-' then .ok (.operand s)
  else
    match Choice.ofName? s with
    | some c => .ok (.option c .nothing)
    | none =>
      if cs.length == 1 then .ok (.operand s)
      else
        let (name, value) := splitAtEquals cs
        match value, Choice.ofName? name with
        | some v, some c => .ok (.option c (tailOf name (some v)))
        | _, _ =>
          match candidates cs with
          | [] =>
            if isNegativeNumber cs || cs.contains ' ' then .ok (.operand s) else .ok (.unknown s)
          | [(_, w)] => .ok w
          | several => .error (.ambiguous s (several.map (·.1)))

/-- The words of a command line. -/
def Word.ofStrings : List String → Except Misuse (List Word)
  | [] => .ok []
  | s :: rest =>
    if s == "--" then .ok (.separator :: rest.map .operand)
    else do return (← Word.ofString s) :: (← Word.ofStrings rest)

/-! ## From words to a request -/

/-- How far a command line has been read. -/
structure Progress where
  request : Request := {}
  /-- Words that mean nothing. -/
  extras : List String := []
  /-- Whether the directory was the word just before. -/
  atDirectory : Bool := false

namespace Progress

/-- Takes note of an option. Only one format may be asked for. -/
def choose (p : Progress) (c : Choice) (value : String) : Except Misuse Progress :=
  match c with
  | .help => .ok p
  | .filter s => .ok { p with request := { p.request with flags := p.request.flags ++ [s] } }
  | .format f =>
    match p.request.format with
    | some g => if f = g then .ok p else .error (.notAllowedWith c (.format g))
    | none => .ok { p with request := { p.request with format := some f } }
  | .config => .ok { p with request := { p.request with config := some value } }
  | .verbose => .ok { p with request := { p.request with verbose := true } }
  | .logFile => .ok { p with request := { p.request with logFile := some value } }

/-- Takes note of an operand. -/
def operand (p : Progress) (s : String) : Progress :=
  match p.request.directory with
  | none => { p with request := { p.request with directory := some s }, atDirectory := true }
  | some _ => { p with extras := p.extras ++ [s], atDirectory := false }

end Progress

/-- The options that a letter option and the letters behind it name. From a letter on that names none, the
letters are a value for the option before them, which takes none. -/
def letterChoices (c : Choice) : List Char → Except Misuse (List Choice)
  | [] => .ok [c]
  | l :: rest =>
    match Choice.ofName? (String.ofList ['-', l]) with
    | some next => (letterChoices next rest).map (c :: ·)
    | none => .error (.valueIgnored c (String.ofList (l :: rest)))

/-- The value that a text behind an equals sign stands for. -/
def explicitValue (text : String) : String := if text == "--" then "" else text

/-- Takes note of options one after the other; nothing if help is asked for. -/
def chooseAll (p : Progress) : List Choice → Except Misuse (Option Progress)
  | [] => .ok (some p)
  | c :: cs => if c = .help then .ok none else do chooseAll (← p.choose c "") cs

/-- Reads words; nothing if help is asked for. -/
def readWords (p : Progress) : List Word → Except Misuse (Option Progress)
  | [] => .ok (some p)
  | .operand s :: rest => readWords (p.operand s) rest
  | .separator :: rest =>
    if p.request.directory.isSome && !p.atDirectory then
      readWords { p with extras := p.extras ++ ["--"] } rest
    else readWords { p with atDirectory := false } rest
  | .unknown s :: rest => readWords { p with extras := p.extras ++ [s], atDirectory := false } rest
  | .option c tail :: rest =>
    let p := { p with atDirectory := false }
    match tail with
    | .letters cs => do
      match ← chooseAll p (← letterChoices c cs) with
      | none => return none
      | some p => readWords p rest
    | .value v =>
      if c.takesValue then do readWords (← p.choose c (explicitValue v)) rest else .error (.valueIgnored c v)
    | .nothing =>
      if c.takesValue then
        match rest with
        | .operand v :: rest => do readWords (← p.choose c v) rest
        | _ => .error (.valueMissing c)
      else if c = .help then .ok none
      else do readWords (← p.choose c "") rest

/-- What a command line asks for; nothing if it asks for help. -/
def Request.parse (args : List String) : Except Misuse (Option Request) := do
  match ← readWords {} (← Word.ofStrings args) with
  | none => return none
  | some p => if p.extras.isEmpty then return some p.request else throw (.unrecognized p.extras)

end DartSurvey.CommandLine
