import CachePolicy.Log.Line
import CachePolicy.Settings.Memo

/-!
# Setting up logs

A level and a format come from the caller, else from the environment, else from the
settings, which are read only when they are needed.  One handler writes the records of
its level and above.
-/

namespace CachePolicy

/-- Capital letters, for ASCII letters and the two others whose capital is an ASCII letter. -/
def uppercased (text : String) : String :=
  String.ofList (text.toList.map fun c =>
    if c = 'ı' then 'I' else if c = 'ſ' then 'S' else c.toUpper)

/-- Levels by name; two of them have a second one. -/
def levelOfName? : String → Option Level
  | "WARN" => some .warning
  | "FATAL" => some .critical
  | name => Level.all.find? fun level => level.name = name

structure LogSetup where
  level : Level
  format : LogFormat
  deriving DecidableEq, Repr

namespace LogSetup

def timeFormat : String := "%Y-%m-%dT%H:%M:%S"

def storeLevel : Level := .warning

def levelText (env : Environment) (given : Option String) : Except Fault String :=
  match (nonEmpty? given).or (nonEmpty? (env.get? "LOG_LEVEL")) with
  | some text => .ok text
  | none => (Settings.read env []).map Settings.logLevel

def formatText (env : Environment) (given : Option String) : Except Fault String :=
  match (nonEmpty? given).or (nonEmpty? (env.get? "LOG_FORMAT")) with
  | some text => .ok (Settings.lowercased text)
  | none => (Settings.read env []).map fun settings => settings.logFormat.name

def read (env : Environment) (level format : Option String) : Except Fault LogSetup := do
  let levelText ← levelText env level
  let formatText ← formatText env format
  match levelOfName? (uppercased levelText) with
  | none => throw .invalidHandler
  | some level => return ⟨level, if formatText = "json" then .json else .plain⟩

def line (setup : LogSetup) (env : Environment) (r : LogRecord) : Except Fault String :=
  match setup.format with
  | .plain => r.plainLine (some timeFormat)
  | .json => r.jsonLine (some timeFormat) env

/-- What the handler writes for a record; one that cannot be formatted leaves nothing. -/
def writtenFor (setup : LogSetup) (env : Environment) (r : LogRecord) : Except Fault String := do
  if !(← r.reaches setup.level) then return ""
  match setup.line env r with
  | .ok line => return line ++ "\n"
  | .error _ => return ""

def written (setup : LogSetup) (env : Environment) (records : List LogRecord) :
    Except Fault String := do
  return String.join (← records.mapM (setup.writtenFor env))

end LogSetup

end CachePolicy
