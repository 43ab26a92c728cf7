/-!
# Log lines

What the library reports beside its results: a level and a text.
-/

namespace LivePages

/-- How serious a log line is, most serious first. -/
inductive Log.Level where
  | error
  | warn
  | info
  | debug
  deriving DecidableEq, Repr

/-- The name of a level in a printed line. -/
def Log.Level.name : Log.Level → String
  | .error => "ERROR"
  | .warn => "WARN"
  | .info => "INFO"
  | .debug => "DEBUG"

/-- A line of the log. -/
structure Log.Line where
  /-- The level. -/
  level : Log.Level
  /-- The text. -/
  text : String
  deriving DecidableEq, Repr

namespace Log

/-- A line about a failure. -/
def error (text : String) : Line := ⟨.error, text⟩

/-- A line about something that went wrong and was worked around. -/
def warn (text : String) : Line := ⟨.warn, text⟩

/-- A line about progress. -/
def info (text : String) : Line := ⟨.info, text⟩

/-- A line about a detail. -/
def debug (text : String) : Line := ⟨.debug, text⟩

/-- The line as it is printed. -/
def Line.render (line : Line) : String :=
  line.level.name ++ " " ++ line.text

/-- The line is a warning or an error. -/
def Line.isSerious (line : Line) : Bool :=
  line.level == .error || line.level == .warn

end Log

end LivePages
