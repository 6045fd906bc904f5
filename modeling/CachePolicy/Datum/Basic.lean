import CachePolicy.Number.Binary64

/-!
# Plain data

Trees of null, flags, numbers and texts, with lists and maps from texts.  A map keeps
one member for each name; a name that comes again keeps its place and takes the new
value.
-/

namespace CachePolicy

inductive Datum where
  | null
  | flag (b : Bool)
  | int (n : Int)
  | float (x : Binary64)
  | text (s : String)
  | list (items : List Datum)
  | map (members : List (String × Datum))

namespace Datum

instance : Inhabited Datum := ⟨null⟩

def put (members : List (String × Datum)) (name : String) (value : Datum) :
    List (String × Datum) :=
  match members with
  | [] => [(name, value)]
  | (other, old) :: rest =>
      if other = name then (name, value) :: rest else (other, old) :: put rest name value

def ofMembers (members : List (String × Datum)) : Datum :=
  map (members.foldl (fun seen member => put seen member.1 member.2) [])

end Datum

end CachePolicy
