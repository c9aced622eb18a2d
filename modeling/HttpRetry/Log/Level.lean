/-!
# Log levels and formats

A level has a name for settings, a label for log lines and a severity, by which
records are dropped.
-/

namespace HttpRetry.Log

inductive Level where
  | debug
  | info
  | warning
  | error
  | critical
deriving DecidableEq

namespace Level

def all : List Level := [debug, info, warning, error, critical]

def name : Level → String
  | debug => "DEBUG"
  | info => "INFO"
  | warning => "WARNING"
  | error => "ERROR"
  | critical => "CRITICAL"

def label : Level → String
  | debug => "debug"
  | info => "info"
  | warning => "warning"
  | error => "error"
  | critical => "critical"

def severity : Level → Nat
  | debug => 10
  | info => 20
  | warning => 30
  | error => 40
  | critical => 50

def ofName? (name : String) : Option Level :=
  all.find? (·.name = name)

end Level

inductive Format where
  | json
  | console
deriving DecidableEq

namespace Format

def all : List Format := [json, console]

def name : Format → String
  | json => "json"
  | console => "console"

def ofName? (name : String) : Option Format :=
  all.find? (·.name = name)

end Format

end HttpRetry.Log
