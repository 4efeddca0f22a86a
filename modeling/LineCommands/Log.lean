/-!
# Log records

What the parts of the interpreter log is data: each operation has, beside its result, a list of the
records that it leaves. A record names its level, the part it comes from, and its text.
-/

namespace LineCommands.Log

/-- How important a record is. -/
inductive Level where
  | debug | warning
deriving DecidableEq, Repr

/-- The part of the interpreter that a record comes from. -/
inductive Source where
  | expression | template | binder | registry | dispatcher
deriving DecidableEq, Repr

/-- The name of the logger of a part. -/
def Source.loggerName : Source → String
  | expression => "cmdcore.domain.expression"
  | template => "cmdcore.domain.template"
  | binder => "cmdcore.services.binder"
  | registry => "cmdcore.services.registry"
  | dispatcher => "cmdcore.services.dispatcher"

/-- A log record. -/
structure Record where
  level : Level
  source : Source
  text : String
deriving DecidableEq, Repr

/-- The records that a logger with debugging on or off keeps. -/
def kept (debug : Bool) (records : List Record) : List Record :=
  records.filter fun r ↦ debug || r.level == .warning

end LineCommands.Log
