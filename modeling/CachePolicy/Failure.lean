import CachePolicy.Text.Quoted

/-!
# Failures from outside

A failure is raised by the body of an operation or by a backend, not by this library.
It may have a cause, and a context in which it arose.
-/

namespace CachePolicy

inductive FailureKind where
  | value
  | key
  | runtime
  | connection
  | timeout
  | type
  | general
  | interrupt
  | backendUnavailable
  | cachePolicy
  | store
  | storeConnection
  | storeTimeout
  | storeResponse
  deriving DecidableEq, Repr

namespace FailureKind

def all : List FailureKind :=
  [value, key, runtime, connection, timeout, type, general, interrupt, backendUnavailable,
    cachePolicy, store, storeConnection, storeTimeout, storeResponse]

def name : FailureKind → String
  | value => "ValueError"
  | key => "KeyError"
  | runtime => "RuntimeError"
  | connection | storeConnection => "ConnectionError"
  | timeout | storeTimeout => "TimeoutError"
  | type => "TypeError"
  | general => "Exception"
  | interrupt => "KeyboardInterrupt"
  | backendUnavailable => "BackendUnavailableError"
  | cachePolicy => "CacheDecoratorError"
  | store => "RedisError"
  | storeResponse => "ResponseError"

/-- The failures of a remote store, which a read from it turns into an unavailable lookup. -/
def isStore : FailureKind → Bool
  | store | storeConnection | storeTimeout | storeResponse => true
  | _ => false

def qualifiedName (k : FailureKind) : String :=
  match k with
  | backendUnavailable | cachePolicy => "cache_decorator.exceptions." ++ k.name
  | store | storeConnection | storeTimeout | storeResponse => "redis.exceptions." ++ k.name
  | _ => k.name

end FailureKind

inductive Failure where
  | mk (kind : FailureKind) (argument : Option String) (cause context : Option Failure)
      (suppressContext : Bool)
  deriving Repr

namespace Failure

def kind : Failure → FailureKind
  | mk kind _ _ _ _ => kind

/-- The argument is the message, except that the key of a key failure is quoted. -/
def message : Failure → String
  | mk _ none _ _ _ => ""
  | mk .key (some argument) _ _ _ => quoted argument
  | mk _ (some argument) _ _ _ => argument

def isInterrupt (f : Failure) : Bool := f.kind = .interrupt

end Failure

end CachePolicy
