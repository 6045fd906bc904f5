import CachePolicy.Settings.Basic
import CachePolicy.Value.Equality
import CachePolicy.Value.Hashable

/-!
# Remembered settings

Settings are read once for each list of given values and then remembered, whatever the
environment becomes.  The memo keeps the 128 lists that were asked for last.  A failed
reading is not remembered.
-/

namespace CachePolicy

structure RememberedSettings where
  given : Table String Value
  settings : Settings
  serial : Nat

/-- The remembered settings, the latest asked for first, and the number of readings so far. -/
structure SettingsMemo where
  entries : List RememberedSettings
  readings : Nat

namespace SettingsMemo

def capacity : Nat := 128

def empty : SettingsMemo := ⟨[], 0⟩

/-- Given values are the same in the same order under the same names. -/
def sameGiven (a b : Table String Value) : Bool := sameFieldKeys a (b.map (·.2)) &&
  a.map (·.1) = b.map (·.1)

def clear (m : SettingsMemo) : SettingsMemo := { m with entries := [] }

/-- The settings for given values, of which null counts as not given, with their serial number. -/
def get (m : SettingsMemo) (env : Environment) (given : Table String Value) :
    Except Fault (Settings × Nat) × SettingsMemo :=
  match hashFaultOfFields? given with
  | some fault => (.error fault, m)
  | none =>
    match m.entries.find? fun entry => sameGiven entry.given given with
    | some entry =>
        let others := m.entries.filter fun other => other.serial ≠ entry.serial
        (.ok (entry.settings, entry.serial), { m with entries := entry :: others })
    | none =>
        match Settings.read env (given.filter fun value => !value.2.isNull) with
        | .ok settings =>
            (.ok (settings, m.readings),
              ⟨(⟨given, settings, m.readings⟩ :: m.entries).take capacity, m.readings + 1⟩)
        | .error fault => (.error fault, m)

end SettingsMemo

end CachePolicy
