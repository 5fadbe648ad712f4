import Lookout.Failure

/-!
# Severities

Log records carry a number for how grave they are. Some numbers have names, and a level
of logging is chosen by name.
-/

namespace Lookout.Journal

/-- The numbers that names of levels stand for. -/
def severities : List (String × Nat) :=
  [("NOTSET", 0), ("DEBUG", 10), ("INFO", 20), ("WARN", 30), ("WARNING", 30), ("ERROR", 40),
    ("CRITICAL", 50), ("FATAL", 50)]

/-- The number of a level by its name in capitals. -/
def severity? (name : String) : Option Nat :=
  severities.lookup name

/-- The name that a number is shown under. -/
def severityName (number : Int) : String :=
  if number = 0 then "NOTSET"
  else if number = 10 then "DEBUG"
  else if number = 20 then "INFO"
  else if number = 30 then "WARNING"
  else if number = 40 then "ERROR"
  else if number = 50 then "CRITICAL"
  else s!"Level {number}"

/-- The number of the level that logging is to have: one by name, or the configured one. -/
def chosenSeverity (settings : Settings) (name : Option String) : Except Failure Nat :=
  let wanted := Text.upper ((name.filter fun text => !text.isEmpty).getD settings.logLevel)
  match severity? wanted with
  | some number => .ok number
  | none => .error (.unknownLevel wanted)

end Lookout.Journal
