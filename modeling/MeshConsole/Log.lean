/-
This file holds the lines that the console logs.
-/

namespace MeshConsole

/-- The severities, the most severe first. -/
inductive LogLevel where
  | error
  | warn
  | info
  | debug
  | trace
deriving DecidableEq, Repr, Inhabited

/-- The name of a severity in capitals. -/
def LogLevel.name : LogLevel → String
  | .error => "ERROR"
  | .warn => "WARN"
  | .info => "INFO"
  | .debug => "DEBUG"
  | .trace => "TRACE"

/-- The place of a severity, from the most severe on. -/
def LogLevel.rank : LogLevel → Nat
  | .error => 1
  | .warn => 2
  | .info => 3
  | .debug => 4
  | .trace => 5

/-- This function reads the name of a severity in any mix of ASCII letter case. -/
def LogLevel.ofName? (name : String) : Option LogLevel :=
  let capitals := name.map Char.toUpper
  [LogLevel.error, .warn, .info, .debug, .trace].find? fun level => level.name == capitals

/-- One logged line. -/
structure LogLine where
  level : LogLevel
  text : String
deriving DecidableEq, Repr

/-- Every line names the console first. -/
def LogLine.make (level : LogLevel) (message : String) : LogLine :=
  ⟨level, "meshmesh-admin: " ++ message⟩

/-- A line passes when it is at least as severe as the limit. -/
def LogLine.passes (limit : LogLevel) (line : LogLine) : Bool :=
  line.level.rank ≤ limit.rank

end MeshConsole
