import CachePolicy.Address.Problem
import CachePolicy.Calendar.Problem
import CachePolicy.Log.Problem
import CachePolicy.Settings.Problem
import CachePolicy.Value.Basic

/-!
# Faults

Everything that can end a call, a registration or a construction without a result,
told apart by its cause.  `Fault.name` and `Fault.message` give the wording.
-/

namespace CachePolicy

inductive Fault where
  | outside (failure : Failure)
  -- Values
  | integerTooLong
  | readRefused (refusal : ReadFailure)
  | attributeMissing (cls name : String)
  | classAttributeMissing (cls name : String)
  | nameUnknown (name : String)
  | comparisonRefused
  | signalingComparison
  | truthRefused
  | textRefused
  | textMismatch (expected given : String)
  | unhashable
  -- Patterns
  | abstractPattern
  -- Keys and registration
  | missingBinding (name : String)
  | unknownMode (shown : String)
  | configuration (message operation mode : String) (template : Value)
  | invalidTemplate (shown operation mode : String) (template : Value)
  | emptyTemplate (operation mode : String)
  | unknownPlaceholder (name operation mode : String) (template : Value)
  -- Calls
  | callMismatch
  | awaitableReply (method operation : String)
  | contract (action operation key : String) (detail : String) (cause : Option Fault)
  -- Backends
  | unserializable (kind : String)
  | storedNothing
  | storedGarbage (first : UInt8)
  | storedValue (kind : String)
  | addressMissing (asynchronous : Bool)
  | addressInvalid (problem : AddressProblem)
  | unknownBackend (shown : String)
  | unsupportedMeasure
  -- Settings and logs
  | invalidSettings (problems : List Problem)
  | invalidInteger (shown : String)
  | tooManyDigits (count : Nat)
  | invalidHandler
  | timeRefused (problem : TimeProblem)
  | halfReport
  | positionMissing (kind : String)
  | positionUnknown (position : Nat)
  | limitForm
  | limitTooLarge
  | formatMismatch
  | messageRefused (problem : MessageProblem)
  | unencodable

namespace Fault

def name : Fault → String
  | outside failure => failure.kind.name
  | integerTooLong | textRefused | unknownMode _ | addressMissing _ | unknownBackend _
  | invalidInteger _ | tooManyDigits _ | invalidHandler | limitForm => "ValueError"
  | readRefused refusal => refusal.failure.kind.name
  | comparisonRefused => "RuntimeError"
  | attributeMissing _ _ | classAttributeMissing _ _ | nameUnknown _ => "AttributeError"
  | signalingComparison => "InvalidOperation"
  | truthRefused | textMismatch _ _ | unhashable | callMismatch | awaitableReply _ _
  | unserializable _ | storedValue _ | unsupportedMeasure | formatMismatch | unencodable =>
      "TypeError"
  | abstractPattern => "NotImplementedError"
  | missingBinding _ | positionUnknown _ => "KeyError"
  | configuration _ _ _ _ => "ConfigurationError"
  | invalidTemplate _ _ _ _ => "InvalidTemplateError"
  | emptyTemplate _ _ => "EmptyTemplateError"
  | unknownPlaceholder _ _ _ _ => "UnknownPlaceholderError"
  | contract _ _ _ _ _ => "BackendContractError"
  | storedNothing => "EOFError"
  | storedGarbage _ => "UnpicklingError"
  | invalidSettings _ => "ValidationError"
  | timeRefused problem => problem.name
  | halfReport => "ValueError"
  | positionMissing _ => "IndexError"
  | limitTooLarge => "OverflowError"
  | addressInvalid problem => problem.name
  | messageRefused problem => problem.name

def subject : String := "cache_decorator"

/-- The first octet of an unreadable record, as a character where it has an unambiguous shape. -/
def loadKey (octet : UInt8) : List Char :=
  if 0x20 ≤ octet && octet ≤ 0x7E && octet ≠ 39 && octet ≠ 92 then [Char.ofNat octet.toNat]
  else escapedNumber octet.toNat

/-- The start of the name of a class, of which a complaint repeats no more. -/
def shortened (limit : Nat) (cls : String) : String := String.ofList (cls.toList.take limit)

/-- The message of a fault.  Failures from outside are taken to have one: the text of an exception
is asked for without a guard where a request fails, and no exception refuses it here. -/
def message : Fault → String
  | outside failure => failure.message
  | integerTooLong => "Exceeds the limit (4300 digits) for integer string conversion; " ++
      "use sys.set_int_max_str_digits() to increase the limit"
  | readRefused refusal => refusal.failure.message
  | attributeMissing cls name =>
      "'" ++ shortened 100 cls ++ "' object has no attribute " ++ quoted name
  | classAttributeMissing cls name =>
      "type object '" ++ shortened 50 cls ++ "' has no attribute " ++ quoted name
  | nameUnknown name => name
  | comparisonRefused => "eq"
  | signalingComparison => "[<class 'decimal.InvalidOperation'>]"
  | truthRefused => "ambiguous"
  | textRefused => "no text form"
  | textMismatch expected given => "descriptor '__repr__' requires a '" ++ expected ++
      "' object but received a '" ++ given ++ "'"
  | unhashable => "unhashable type"
  | abstractPattern => ""
  | missingBinding name => quoted name
  | unknownMode shown => shown ++ " is not a valid Mode"
  | configuration message _ _ _ => message
  | invalidTemplate shown operation mode _ =>
      subject ++ ": invalid value " ++ shown ++ " in key for @" ++ mode ++ " " ++ operation
  | emptyTemplate operation mode =>
      subject ++ ": invalid value '' in key for @" ++ mode ++ " " ++ operation
  | unknownPlaceholder name operation mode _ =>
      subject ++ ": unknown variable \x7b" ++ name ++ "\x7d in key for @" ++ mode ++ " " ++
        operation
  | callMismatch => "the call does not fit the signature"
  | awaitableReply method operation =>
      "backend." ++ method ++ " returned an awaitable for synchronous operation " ++ operation ++
        "; use an async backend only with coroutine functions"
  | contract action operation key detail _ =>
      subject ++ ": backend " ++ action ++ " failed for key " ++ quoted key ++ " in " ++
        operation ++ (if detail = "" then "" else ": " ++ detail)
  | unserializable kind => "cannot pickle " ++ quoted kind ++ " object"
  | storedNothing => "Ran out of input"
  | storedGarbage first => "invalid load key, '" ++ String.ofList (loadKey first) ++ "'."
  | storedValue kind => "a bytes-like object is required, not " ++ quoted kind
  | addressMissing asynchronous =>
      (if asynchronous then "AsyncRedisBackend" else "RedisBackend") ++
        " needs either url or client"
  | addressInvalid problem => problem.message
  | unknownBackend shown => "Unknown cache backend " ++ shown
  | unsupportedMeasure => "the backend cannot be measured"
  | invalidSettings _ => "validation failed"
  | invalidInteger shown => "invalid literal for int() with base 10: " ++ shown
  | tooManyDigits count => tooManyDigitsText count
  | invalidHandler => "Unable to configure handler 'stream'"
  | timeRefused problem => problem.message
  | halfReport => "Both or neither of value and tb must be given"
  | positionMissing "" => "index out of range"
  | positionMissing kind => kind ++ " index out of range"
  | positionUnknown position => integerText position
  | limitForm =>
      "Stop argument for islice() must be None or an integer: 0 <= x <= sys.maxsize."
  | limitTooLarge => "Python int too large to convert to C ssize_t"
  | formatMismatch => "the arguments do not fit the message"
  | messageRefused problem => problem.message
  | unencodable => "the value cannot be encoded"

/-! ## Families of faults -/

def configurationFamily : List String :=
  ["ConfigurationError", "CacheDecoratorError", "ValueError", "Exception", "BaseException"]

def familiesOfFailure (failure : Failure) : List String :=
  match failure.kind with
  | .interrupt => ["KeyboardInterrupt", "BaseException"]
  | .cachePolicy => ["CacheDecoratorError", "Exception", "BaseException"]
  | .backendUnavailable =>
      ["BackendUnavailableError", "CacheDecoratorError", "Exception", "BaseException"]
  | kind => [kind.name, "Exception", "BaseException"]

/-- The families that a fault belongs to, from the narrowest to the widest. -/
def families : Fault → List String
  | configuration _ _ _ _ => configurationFamily
  | invalidTemplate _ _ _ _ => "InvalidTemplateError" :: configurationFamily
  | emptyTemplate _ _ => "EmptyTemplateError" :: "InvalidTemplateError" :: configurationFamily
  | unknownPlaceholder _ _ _ _ => "UnknownPlaceholderError" :: configurationFamily
  | contract _ _ _ _ _ =>
      ["BackendContractError", "CacheDecoratorError", "RuntimeError", "Exception",
        "BaseException"]
  | outside failure => familiesOfFailure failure
  | readRefused refusal => familiesOfFailure refusal.failure
  | fault => [fault.name, "Exception", "BaseException"]

def isInterrupt : Fault → Bool
  | outside failure => failure.isInterrupt
  | _ => false

end Fault

end CachePolicy
