/-!
# Log rows

What the engine, the registry and the backends write about their work: a level, a
message, the interception it belongs to, and the kind of fault that is attached.
-/

namespace CachePolicy

inductive Level where
  | notSet
  | debug
  | info
  | warning
  | error
  | critical
  deriving DecidableEq, Repr

namespace Level

def all : List Level := [notSet, debug, info, warning, error, critical]

def name : Level → String
  | notSet => "NOTSET"
  | debug => "DEBUG"
  | info => "INFO"
  | warning => "WARNING"
  | error => "ERROR"
  | critical => "CRITICAL"

def number : Level → Nat
  | notSet => 0
  | debug => 10
  | info => 20
  | warning => 30
  | error => 40
  | critical => 50

end Level

inductive Outcome where
  | hit
  | miss
  | unavailable
  | skipped
  | stored
  | invalidated
  | putFailed
  | deleteFailed
  deriving DecidableEq, Repr

def Outcome.name : Outcome → String
  | hit => "hit"
  | miss => "miss"
  | unavailable => "unavailable"
  | skipped => "skipped"
  | stored => "stored"
  | invalidated => "invalidated"
  | putFailed => "put_failed"
  | deleteFailed => "delete_failed"

structure LogContext where
  operation : String
  mode : String
  key : String
  outcome : Outcome
  deriving DecidableEq, Repr

structure LogRow where
  level : Level
  message : String
  context : Option LogContext
  faultName : Option String
  deriving DecidableEq, Repr

end CachePolicy
