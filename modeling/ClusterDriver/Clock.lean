/-!
Moments are in milliseconds, on a clock that counts seconds in 63 bits. Settings have 64 bits of
milliseconds each, which is next to nothing on it; only with a length of time of its own, for one
request or for a group that is shut down, can a caller ask for a moment that will never come.
-/

set_option autoImplicit false

namespace ClusterDriver.Clock

/-- The first moment that cannot be shown. -/
def limit : Nat := 0x8000000000000000 * 1000

def after? (now delay : Nat) : Option Nat :=
  if now + delay < limit then some (now + delay) else none

variable {now delay : Nat}

theorem after?_eq_some (fits : now + delay < limit) : after? now delay = some (now + delay) :=
  if_pos fits

@[simp]
theorem after?_eq_none_iff : after? now delay = none ↔ limit ≤ now + delay := by
  simp [after?]

end ClusterDriver.Clock
