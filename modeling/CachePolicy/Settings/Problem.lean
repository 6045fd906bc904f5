/-!
# Settings and what can be wrong with them

The six settings of the cache, and the complaints that a reading of them collects.
-/

namespace CachePolicy

inductive Setting where
  | enabled
  | backend
  | url
  | «namespace»
  | logLevel
  | logFormat
  deriving DecidableEq, Repr

namespace Setting

def all : List Setting := [enabled, backend, url, «namespace», logLevel, logFormat]

def name : Setting → String
  | enabled => "enabled"
  | backend => "backend"
  | url => "url"
  | «namespace» => "namespace"
  | logLevel => "log_level"
  | logFormat => "log_format"

end Setting

inductive Problem where
  | flagText (setting : Setting)
  | flagType (setting : Setting)
  | textType (setting : Setting)
  | textOctets (setting : Setting)
  | choice (setting : Setting)
  | urlRequired
  deriving DecidableEq, Repr

namespace Problem

/-- The setting that is wrong; a missing address is a fault of the settings as a whole. -/
def setting? : Problem → Option Setting
  | flagText s | flagType s | textType s | textOctets s | choice s => some s
  | urlRequired => none

def code : Problem → String
  | flagText _ => "bool_parsing"
  | flagType _ => "bool_type"
  | textType _ => "string_type"
  | textOctets _ => "string_unicode"
  | choice _ => "literal_error"
  | urlRequired => "value_error"

def message : Problem → String
  | flagText _ => "Input should be a valid boolean, unable to interpret input"
  | flagType _ => "Input should be a valid boolean"
  | textType _ => "Input should be a valid string"
  | textOctets _ =>
      "Input should be a valid string, unable to parse raw data as a unicode string"
  | choice .logFormat => "Input should be 'plain' or 'json'"
  | choice _ => "Input should be 'memory', 'null' or 'redis'"
  | urlRequired => "Value error, CACHE_URL is required when CACHE_BACKEND=redis"

end Problem

end CachePolicy
