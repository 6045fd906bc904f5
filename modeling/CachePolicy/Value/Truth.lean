import CachePolicy.Fault

/-!
# Truth of values

Empty containers and texts, zero and the null value count as false, and all else as
true.  An object may refuse to be tested.
-/

namespace CachePolicy

namespace Scalar

def truth : Scalar → Bool
  | null => false
  | flag b => b
  | int n => n ≠ 0
  | float x => !x.isZero
  | decimal (.finite _ coefficient _) => coefficient ≠ 0
  | text s => s ≠ ""
  | bytes octets | buffer octets => octets ≠ []
  | _ => true

end Scalar

namespace Value

def truth : Value → Except Fault Bool
  | scalar s => .ok s.truth
  | list items | tuple items | set _ items => .ok !items.isEmpty
  | dict _ entries => .ok !entries.isEmpty
  | named _ fields => .ok !fields.isEmpty
  | member mixin _ _ _ => .ok ((mixin.content?.map Scalar.truth).getD true)
  | object _ _ _ untestable _ => if untestable then .error .truthRefused else .ok true
  | data _ _ _ | lookup _ _ | pattern _ | known _ _ => .ok true
  | refusing _ value => value.truth

end Value

end CachePolicy
