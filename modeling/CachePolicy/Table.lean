/-!
# Tables

A table is a list of entries with at most one entry for a key, in the order in which
the keys were first put.  Putting a key again replaces its value in place.
-/

namespace CachePolicy

abbrev Table (κ ν : Type) := List (κ × ν)

namespace Table

variable {κ ν : Type} [DecidableEq κ]

def get? : Table κ ν → κ → Option ν
  | [], _ => none
  | (key, value) :: rest, k => if key = k then some value else get? rest k

def put : Table κ ν → κ → ν → Table κ ν
  | [], k, v => [(k, v)]
  | (key, value) :: rest, k, v =>
      if key = k then (key, v) :: rest else (key, value) :: put rest k v

def erase : Table κ ν → κ → Table κ ν
  | [], _ => []
  | (key, value) :: rest, k => if key = k then erase rest k else (key, value) :: erase rest k

def contains (t : Table κ ν) (k : κ) : Bool := (t.get? k).isSome

/-- Puts entries one after the other, so the last value of a key wins. -/
def ofEntries (entries : List (κ × ν)) : Table κ ν :=
  entries.foldl (fun t entry => t.put entry.1 entry.2) []

/-! ## Reading after writing -/

@[simp] theorem get?_nil (k : κ) : get? ([] : Table κ ν) k = none := rfl

@[simp] theorem get?_put_self (t : Table κ ν) (k : κ) (v : ν) : (t.put k v).get? k = some v := by
  induction t with
  | nil => simp [put, get?]
  | cons entry rest ih =>
      by_cases h : entry.1 = k
      · simp [put, get?, h]
      · simp [put, get?, h, ih]

theorem get?_put_of_ne (t : Table κ ν) {j k : κ} (v : ν) (h : j ≠ k) :
    (t.put j v).get? k = t.get? k := by
  induction t with
  | nil => simp [put, get?, h]
  | cons entry rest ih =>
      by_cases hj : entry.1 = j
      · simp [put, get?, hj, h]
      · simp [put, get?, hj, ih]

@[simp] theorem get?_erase_self (t : Table κ ν) (k : κ) : (t.erase k).get? k = none := by
  induction t with
  | nil => rfl
  | cons entry rest ih =>
      by_cases h : entry.1 = k
      · simp [erase, h, ih]
      · simp [erase, get?, h, ih]

theorem get?_erase_of_ne (t : Table κ ν) {j k : κ} (h : j ≠ k) :
    (t.erase j).get? k = t.get? k := by
  induction t with
  | nil => rfl
  | cons entry rest ih =>
      by_cases hj : entry.1 = j
      · simp [erase, get?, hj, h, ih]
      · simp [erase, get?, hj, ih]

end Table

end CachePolicy
