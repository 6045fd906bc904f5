import CachePolicy.Address.Network
import CachePolicy.Address.Problem
import CachePolicy.Number.Integer
import CachePolicy.Text.Percent
import CachePolicy.Text.Quoted
import CachePolicy.Value.Attribute

/-!
# Addresses of stores

The address of a remote store has a scheme, an authority with a host and a port, a path
and options behind a question mark.  `StoreAddress.check` tells what is wrong with an
address before anything is connected.
-/

namespace CachePolicy

structure StoreAddress where
  scheme : String
  authority : List Char
  options : List Char
  deriving DecidableEq, Repr

namespace StoreAddress

/-! ## Parts -/

/-- Blanks and controls in front do not count, and neither do tabs and line ends anywhere. -/
def cleaned (url : String) : List Char :=
  (url.toList.dropWhile fun c => c.toNat ≤ 0x20).filter fun c =>
    c ≠ '\t' && c ≠ '\r' && c ≠ '\n'

def isSchemeChar (c : Char) : Bool := c.isAlphanum || c = '+' || c = '-' || c = '.'

/-- The scheme in small letters and what stands behind its colon.  A scheme starts with a
letter. -/
def splitScheme (cs : List Char) : String × List Char :=
  let name := cs.takeWhile (· ≠ ':')
  if cs.contains ':' && (name.head?.any Char.isAlpha) && name.all isSchemeChar then
    (String.ofList (name.map Char.toLower), cs.drop (name.length + 1))
  else ("", cs)

def endsAuthority (c : Char) : Bool := c = '/' || c = '?' || c = '#'

def splitAuthority : List Char → List Char × List Char
  | '/' :: '/' :: cs => cs.span fun c => !endsAuthority c
  | cs => ([], cs)

/-- Characters that turn into separators when their compatible forms are taken. -/
def disguisedSeparators : List Nat := [
  0x2047, 0x2048, 0x2049, 0x2100, 0x2101, 0x2105, 0x2106, 0x2A74, 0xFE13, 0xFE16, 0xFE55, 0xFE56,
  0xFE5F, 0xFE6B, 0xFF03, 0xFF0F, 0xFF1A, 0xFF1F, 0xFF20]

/-- The host and the port, which stand behind the last at sign of an authority. -/
def hostAndPort (authority : List Char) : List Char :=
  (authority.reverse.takeWhile (· ≠ '@')).reverse

/-- A host of a future version starts with the letter v, a version and a point. -/
def isFutureHost (host : List Char) : Bool :=
  let version := (host.drop 1).takeWhile fun c => (hexDigitValue? c).isSome
  !version.isEmpty &&
    match host.drop (version.length + 1) with
    | '.' :: _ :: _ => true
    | _ => false

def checkBracketed (host : List Char) : Except AddressProblem Unit :=
  if host.head? = some 'v' then
    if isFutureHost host then .ok () else .error .futureHost
  else if NetworkAddress.isPointed host then .error .bracketedHost
  else if NetworkAddress.isColoned host then .ok ()
  else .error (.hostForm (quoted (String.ofList host)))

/-- Nothing stands between the brackets of a host and the signs that delimit it. -/
def checkHost (host : List Char) : Except AddressProblem Unit :=
  if host.contains '[' then
    let behind := host.dropWhile (· ≠ '[')
    let after := (behind.dropWhile (· ≠ ']')).drop 1
    if host.head? ≠ some '[' || !(after.isEmpty || after.head? = some ':') then .error .brackets
    else checkBracketed ((behind.drop 1).takeWhile (· ≠ ']'))
  else checkBracketed (host.takeWhile (· ≠ ':'))

def checkAuthority (authority : List Char) : Except AddressProblem Unit := do
  if authority.contains '[' != authority.contains ']' then throw .brackets
  if authority.contains '[' then checkHost (hostAndPort authority)
  if authority.any fun c => disguisedSeparators.contains c.toNat then
    throw (.authority (String.ofList authority))

def read (url : String) : Except AddressProblem StoreAddress := do
  let (scheme, rest) := splitScheme (cleaned url)
  let (authority, rest) := splitAuthority rest
  checkAuthority authority
  let located := rest.takeWhile (· ≠ '#')
  return ⟨scheme, authority, (located.dropWhile (· ≠ '?')).drop 1⟩

/-! ## Options -/

inductive OptionForm where
  | integer
  | real
  | flags
  deriving DecidableEq, Repr

def optionForms : List (String × OptionForm) :=
  [("db", .integer), ("max_connections", .integer), ("health_check_interval", .integer),
    ("protocol", .integer), ("socket_read_size", .integer), ("ssl_min_version", .integer),
    ("socket_timeout", .real), ("socket_connect_timeout", .real), ("timeout", .real),
    ("ssl_include_verify_flags", .flags), ("ssl_exclude_verify_flags", .flags)]

def verifyFlags : List String := [
  "VERIFY_DEFAULT", "VERIFY_CRL_CHECK_LEAF", "VERIFY_CRL_CHECK_CHAIN", "VERIFY_X509_STRICT",
  "VERIFY_ALLOW_PROXY_CERTS", "VERIFY_X509_TRUSTED_FIRST", "VERIFY_X509_PARTIAL_CHAIN"]

/-- A flag is a name that the enumeration of the checks answers to. -/
def isVerifyFlag (name : String) : Bool :=
  verifyFlags.contains name || ((Class.members .int "VerifyFlags").attribute? name).isSome

/-- Blanks around the name of a flag, and the separators of records, do not count. -/
def flagName (cs : List Char) : String :=
  let isOuter (c : Char) : Bool := isBlank c || (0x1C ≤ c.toNat && c.toNat ≤ 0x1F)
  String.ofList ((cs.dropWhile isOuter).reverse.dropWhile isOuter).reverse

def flagNames (value : String) : List String :=
  ((value.toList.filter fun c => c ≠ '[' && c ≠ ']').splitOn ',').map flagName

def OptionForm.accepts (form : OptionForm) (value : String) : Bool :=
  match form with
  | integer => (readInteger value).toOption.isSome
  | real => isRealText value
  | flags => (flagNames value).all isVerifyFlag

/-- A plus sign stands for a blank. -/
def optionText (cs : List Char) : List Char :=
  percentDecoded (cs.map fun c => if c = '+' then ' ' else c)

def readOption? (cs : List Char) : Option (String × List Char) :=
  let name := cs.takeWhile (· ≠ '=')
  match cs.drop (name.length + 1) with
  | [] => none
  | value => some (String.ofList (optionText name), optionText value)

/-- The options in the order of their names, with the first value that each name has. -/
def optionValues (a : StoreAddress) : List (String × String) :=
  let given := (a.options.splitOn '&').filterMap readOption?
  (given.map (·.1)).eraseDups.filterMap fun name =>
    (given.lookup name).map fun value => (name, String.ofList value)

def checkOptions (a : StoreAddress) : Except AddressProblem Unit :=
  match a.optionValues.find? fun (name, value) =>
      (optionForms.lookup name).any fun form => !form.accepts value with
  | some (name, _) => .error (.option name)
  | none => .ok ()

/-- Options whose name is that of the store that is made from them are refused. -/
def checkNames (a : StoreAddress) : Except AddressProblem Unit :=
  if a.optionValues.any fun option => option.1 = "self" then .error .ownOption else .ok ()

/-- A limit of zero connections counts as none. -/
def checkConnectionLimit (a : StoreAddress) : Except AddressProblem Unit :=
  match (a.optionValues.lookup "max_connections").map readInteger with
  | some (.ok limit) => if limit < 0 then .error .connectionLimit else .ok ()
  | _ => .ok ()

def cacheVersion : Int := 3

/-- A text is neither a cache nor tells how to make one.  The protocol is looked at before that,
and is of the right version unless an option says otherwise. -/
def checkCache (a : StoreAddress) : Except AddressProblem Unit :=
  let given (name : String) := (a.optionValues.lookup name).isSome
  if !given "cache" && !given "cache_config" then .ok ()
  else
    match (a.optionValues.lookup "protocol").map readInteger with
    | some (.ok version) => if version = cacheVersion then formed given else .error .cacheProtocol
    | _ => formed given
where
  formed (given : String → Bool) : Except AddressProblem Unit :=
    if given "cache" then .error .cacheForm
    else if given "cache_factory" then .error (.partless "get_cache")
    else .error (.partless "get_cache_class")

/-- A text does not tell whether notices of maintenance are wanted. -/
def checkNotices (a : StoreAddress) : Except AddressProblem Unit :=
  if (a.optionValues.lookup "maint_notifications_config").isSome then .error (.partless "enabled")
  else .ok ()

/-! ## The port -/

/-- What stands behind the colon of the host; colons in brackets belong to the host. -/
def portText (a : StoreAddress) : List Char :=
  let host := hostAndPort a.authority
  let behind := if host.contains '[' then
      ((host.dropWhile (· ≠ '[')).dropWhile (· ≠ ']')).drop 1
    else host
  (behind.dropWhile (· ≠ ':')).drop 1

def checkPort (a : StoreAddress) : Except AddressProblem Unit :=
  match a.portText with
  | [] => .ok ()
  | port =>
      match readNat? port with
      | none => .error (.portForm (quoted (String.ofList port)))
      | some n =>
          if digitLimit < port.length then .error (.portDigits port.length)
          else if 65535 < n then .error .portRange
          else .ok ()

/-! ## The whole address -/

/-- The start of an address that a store read at once insists on. -/
def openings : List String := ["redis://", "rediss://", "unix://"]

/-- A store that is read at once looks at the start of the address before anything else, and one
that is awaited at the scheme after the options.  Only one that is read at once keeps a cache and
takes notices. -/
def check (asynchronous : Bool) (url : String) : Except AddressProblem Unit := do
  if !asynchronous && !openings.any (fun start => start.toList.isPrefixOf url.toList) then
    throw .scheme
  let a ← read url
  a.checkOptions
  match a.scheme with
  | "unix" => pure ()
  | "redis" | "rediss" => a.checkPort
  | _ => throw .scheme
  a.checkNames
  a.checkConnectionLimit
  if !asynchronous then
    a.checkCache
    a.checkNotices

end StoreAddress

end CachePolicy
