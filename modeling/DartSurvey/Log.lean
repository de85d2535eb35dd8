/-! # Log channels

Log lines belong to channels: the channel of the program, and the channels below it by name.
-/

namespace DartSurvey.Log

/-- The name of the channel of the whole program. -/
def root : String := "dart_inspect"

/-- The full name of a channel; without a name it is the channel of the program. -/
def channel : Option String → String
  | none => root
  | some name => if name == "" then root else root ++ "." ++ name

end DartSurvey.Log
