namespace AdventureArchive

/-!
# Log records

What the library has to say while it works.  A record is a value like any
other: each activity has a function that gives its records in order.
-/

/-- How urgent a log record is. -/
inductive LogLevel where
  | error
  | warn
  | info
  | debug
  | trace
  deriving Repr, DecidableEq

/-- The name a level is printed with. -/
def LogLevel.name : LogLevel → String
  | .error => "ERROR"
  | .warn => "WARN"
  | .info => "INFO"
  | .debug => "DEBUG"
  | .trace => "TRACE"

/-- One remark. -/
structure LogRecord where
  level : LogLevel
  message : String
  deriving Repr, DecidableEq

/-- Level and message in one line. -/
def LogRecord.text (record : LogRecord) : String :=
  record.level.name ++ " " ++ record.message

end AdventureArchive
