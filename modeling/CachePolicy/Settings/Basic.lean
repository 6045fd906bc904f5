import CachePolicy.Table
import CachePolicy.Text.Utf8
import CachePolicy.Value.Shown

/-!
# Settings

Settings are read from given values and from an environment.  A given value goes
before the environment, where a setting has the name of its field behind `CACHE_` in
letters of any size.  Every setting that is wrong is reported; only when none is, the
remote backend is held to have an address.
-/

namespace CachePolicy

abbrev Environment := Table String String

inductive BackendChoice where
  | memory
  | null
  | redis
  deriving DecidableEq, Repr

inductive LogFormat where
  | plain
  | json
  deriving DecidableEq, Repr

def BackendChoice.name : BackendChoice → String
  | memory => "memory"
  | null => "null"
  | redis => "redis"

def LogFormat.name : LogFormat → String
  | plain => "plain"
  | json => "json"

structure Settings where
  enabled : Bool
  backend : BackendChoice
  url : Option String
  namespaceName : String
  logLevel : String
  logFormat : LogFormat
  deriving DecidableEq, Repr

namespace Settings

def defaults : Settings := ⟨true, .memory, none, "", "INFO", .plain⟩

/-! ## Values of settings -/

/-- Small letters, for ASCII letters and the one other whose small form is an ASCII letter. -/
def lowercased (text : String) : String :=
  String.ofList (text.toList.map fun c => if c = '\u212a' then 'k' else c.toLower)

def flagOfText (text : String) : Except Problem Bool :=
  match lowercased text with
  | "0" | "off" | "f" | "false" | "n" | "no" => .ok false
  | "1" | "on" | "t" | "true" | "y" | "yes" => .ok true
  | _ => .error (.flagText .enabled)

/-- Only zero and one are flags. -/
def flagOfInt (n : Int) : Except Problem Bool :=
  match n with
  | 0 => .ok false
  | 1 => .ok true
  | _ => .error (.flagText .enabled)

/-- A fraction is not of the right type, and neither is a number of 64 bits or more. -/
def flagOfReal (x : Binary64) : Except Problem Bool :=
  match x.integer? with
  | some n => if n.natAbs < Nat.pow 2 63 then flagOfInt n else .error (.flagType .enabled)
  | none => .error (.flagType .enabled)

def flagOfScalar : Scalar → Except Problem Bool
  | .flag b => .ok b
  | .text s => flagOfText s
  | .bytes octets =>
      match strictText? octets with
      | some text => flagOfText text
      | none => .error (.flagText .enabled)
  | .int n =>
      if -Nat.pow 2 63 ≤ n && n < Nat.pow 2 63 then flagOfInt n else .error (.flagType .enabled)
  | .float x => flagOfReal x
  | .decimal x => flagOfReal x.toBinary64
  | _ => .error (.flagType .enabled)

def readFlag (v : Value) : Except Problem Bool :=
  match v.unwrapped with
  | .scalar s => flagOfScalar s
  | _ => .error (.flagType .enabled)

def textOfOctets (setting : Setting) (octets : List UInt8) : Except Problem String :=
  match strictText? octets with
  | some text => .ok text
  | none => .error (.textOctets setting)

/-- Octets are read as a text, and a member of an enumeration stands for the text of its value; a
value that refuses to be displayed ends the reading. -/
def readText (setting : Setting) (v : Value) : Except Fault (Except Problem String) :=
  match v.text?, v.bare with
  | some text, _ => .ok (.ok text)
  | none, .scalar (.bytes octets) | none, .scalar (.buffer octets) =>
      .ok (textOfOctets setting octets)
  | none, .member _ _ _ value => value.display.map .ok
  | none, _ => .ok (.error (.textType setting))

def readBackend (v : Value) : Except Problem BackendChoice :=
  match v.text? with
  | some "memory" => .ok .memory
  | some "null" => .ok .null
  | some "redis" => .ok .redis
  | _ => .error (.choice .backend)

def readLogFormat (v : Value) : Except Problem LogFormat :=
  match v.text? with
  | some "plain" => .ok .plain
  | some "json" => .ok .json
  | _ => .error (.choice .logFormat)

def readUrl (v : Value) : Except Fault (Except Problem (Option String)) :=
  if v.isNull then .ok (.ok none) else (readText .url v).map fun text => text.map some

/-! ## Reading -/

/-- Of two variables that differ only in the size of letters the later one counts. -/
def environmentText? (env : Environment) (s : Setting) : Option String :=
  (env.reverse.find? fun entry => lowercased entry.1 = "cache_" ++ s.name).map (·.2)

def given? (env : Environment) (values : Table String Value) (s : Setting) : Option Value :=
  (values.get? s.name).or ((environmentText? env s).map .text)

def orDefault {α β : Type} (given : Option Value) (fallback : α) (read : Value → Except β α) :
    Except β α :=
  match given with
  | some v => read v
  | none => .ok fallback

def problem? {α : Type} : Except Problem α → Option Problem
  | .ok _ => none
  | .error p => some p

def read (env : Environment) (values : Table String Value) : Except Fault Settings := do
  let given := given? env values
  let enabled := orDefault (given .enabled) defaults.enabled readFlag
  let backend := orDefault (given .backend) defaults.backend readBackend
  let url ← orDefault (given .url) (.ok defaults.url) readUrl
  let name ← orDefault (given .namespace) (.ok defaults.namespaceName) (readText .namespace)
  let logLevel ← orDefault (given .logLevel) (.ok defaults.logLevel) (readText .logLevel)
  let logFormat := orDefault (given .logFormat) defaults.logFormat readLogFormat
  match enabled, backend, url, name, logLevel, logFormat with
  | .ok enabled, .ok backend, .ok url, .ok name, .ok logLevel, .ok logFormat =>
      if backend = .redis && url.getD "" = "" then .error (.invalidSettings [.urlRequired])
      else .ok ⟨enabled, backend, url, name, logLevel, logFormat⟩
  | _, _, _, _, _, _ =>
      .error (.invalidSettings ([problem? enabled, problem? backend, problem? url, problem? name,
        problem? logLevel, problem? logFormat].filterMap id))

end Settings

end CachePolicy
