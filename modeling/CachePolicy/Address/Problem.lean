import CachePolicy.Text.Digits

/-!
# What can be wrong with the address of a store
-/

namespace CachePolicy

inductive AddressProblem where
  | scheme
  | brackets
  | futureHost
  | hostForm (shown : String)
  | bracketedHost
  | authority (text : String)
  | portForm (shown : String)
  | portDigits (count : Nat)
  | portRange
  | option (name : String)
  | ownOption
  | connectionLimit
  | cacheProtocol
  | cacheForm
  | partless (name : String)
  deriving DecidableEq, Repr

/-- A numeral with so many digits is refused before its value is known. -/
def tooManyDigitsText (count : Nat) : String :=
  "Exceeds the limit (4300 digits) for integer string conversion: value has " ++
    integerText count ++ " digits; use sys.set_int_max_str_digits() to increase the limit"

namespace AddressProblem

def name : AddressProblem → String
  | ownOption => "TypeError"
  | cacheProtocol => "RedisError"
  | partless _ => "AttributeError"
  | _ => "ValueError"

def message : AddressProblem → String
  | scheme => "Redis URL must specify one of the following schemes " ++
      "(redis://, rediss://, unix://)"
  | brackets => "Invalid IPv6 URL"
  | futureHost => "IPvFuture address is invalid"
  | hostForm shown => shown ++ " does not appear to be an IPv4 or IPv6 address"
  | bracketedHost => "An IPv4 address cannot be in brackets"
  | authority text =>
      "netloc '" ++ text ++ "' contains invalid characters under NFKC normalization"
  | portForm shown => "Port could not be cast to integer value as " ++ shown
  | portDigits count => tooManyDigitsText count
  | portRange => "Port out of range 0-65535"
  | option name => "Invalid value for '" ++ name ++ "' in connection URL."
  | ownOption => "the option names the store itself"
  | connectionLimit => "\"max_connections\" must be a positive integer"
  | cacheProtocol => "Client caching is only supported with RESP version 3"
  | cacheForm => "Cache must implement CacheInterface"
  | partless name => "'str' object has no attribute '" ++ name ++ "'"

end AddressProblem

end CachePolicy
