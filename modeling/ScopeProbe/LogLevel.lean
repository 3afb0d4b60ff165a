import ScopeProbe.Text.Basic

/-!
# Log levels

A level has a name and a number; two pairs of names share a number.  An entry is logged if its
number reaches the one of the level that is set.  Where none is set, warnings and worse are
logged.
-/

namespace ScopeProbe

inductive LogLevel where
  | critical
  | fatal
  | error
  | warn
  | warning
  | info
  | debug
  | notSet
  deriving DecidableEq, Repr

namespace LogLevel

def all : List LogLevel :=
  [critical, fatal, error, warn, warning, info, debug, notSet]

def name : LogLevel -> String
  | critical => "CRITICAL"
  | fatal => "FATAL"
  | error => "ERROR"
  | warn => "WARN"
  | warning => "WARNING"
  | info => "INFO"
  | debug => "DEBUG"
  | notSet => "NOTSET"

def number : LogLevel -> Nat
  | critical | fatal => 50
  | error => 40
  | warn | warning => 30
  | info => 20
  | debug => 10
  | notSet => 0

def ofName? (name : String) : Option LogLevel :=
  all.find? (·.name = name)

def threshold (level : LogLevel) : Nat :=
  if level = notSet then warning.number else level.number

/-- Whether entries of one level are logged while another one is set. -/
def admits (level entry : LogLevel) : Bool :=
  level.threshold <= entry.number

theorem mem_all (level : LogLevel) : level ∈ all := by
  cases level <;> decide

theorem ofName?_name (level : LogLevel) : ofName? level.name = some level := by
  cases level <;> decide

end LogLevel

structure LogEntry where
  level : LogLevel
  message : Text
  deriving DecidableEq, Repr

end ScopeProbe
