/-!
# Blank texts

Texts that count as not given.
-/

namespace CachePolicy

/-- An empty text stands for none. -/
def nonEmpty? : Option String → Option String
  | some "" => none
  | text => text

end CachePolicy
