/-!
# Log records

What a run tells about its work, record by record, each with its level and the part of the program
that speaks.
-/

namespace ServiceDoc

/-- How important a record is. -/
inductive LogLevel where
  | debug
  | info
  | warning
  deriving DecidableEq, Repr

def LogLevel.name : LogLevel → String
  | debug => "DEBUG"
  | info => "INFO"
  | warning => "WARNING"

structure LogRecord where
  level : LogLevel
  speaker : String
  message : String
  deriving DecidableEq, Repr

namespace LogRecord

def brief (r : LogRecord) : String := r.level.name ++ " " ++ r.message

def line (r : LogRecord) : String := r.level.name ++ " " ++ r.speaker ++ ": " ++ r.message ++ "\n"

/-- Whether a record is shown: details only on request. -/
def isShown (verbose : Bool) (r : LogRecord) : Bool := verbose || r.level = .warning

end LogRecord

end ServiceDoc
