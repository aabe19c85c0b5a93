import ClusterDriver.Text.Duration

set_option autoImplicit false

namespace ClusterDriver

/-- The schedule of one pool; `failures` counts since the last success. -/
structure ReconnectSchedule where
  base : Duration
  most : Duration
  failures : Nat := 0
deriving DecidableEq, Repr, Inhabited

namespace ReconnectSchedule

def ofDurations (base most : Duration) : ReconnectSchedule where
  base
  most := ⟨max base.nanos most.nanos⟩

def ofLimits (base most : Nat) : ReconnectSchedule := ofDurations (.ofMillis base) (.ofMillis most)

def maxFailures : Nat := UInt32.size - 1

/-- The longest time that can be told, which has 2^64 - 1 seconds and all but one nanosecond of the
next. -/
def longest : Duration := ⟨UInt64.size * 1000000000 - 1⟩

def factor (failures : Nat) : Nat :=
  -- Doubling stops after 31 failures.
  min (Nat.pow 2 (min failures 31)) (UInt32.size - 1)

def bound (schedule : ReconnectSchedule) : Duration :=
  ⟨min (min (schedule.base.nanos * factor schedule.failures) longest.nanos) schedule.most.nanos⟩

def ceiling (schedule : ReconnectSchedule) : Nat := schedule.bound.toMillis

/-- How long to rest after a failure: whole milliseconds, from half the ceiling up to the ceiling,
where `choice` picks one. A bound of less than two milliseconds is taken as it is. -/
def rest (schedule : ReconnectSchedule) (choice : Nat) : Duration :=
  -- Choices are made among numbers of 64 bits.
  let millis := schedule.ceiling % UInt64.size
  if millis < 2 then schedule.bound
  else .ofMillis (millis / 2 + choice % (millis - millis / 2 + 1))

def delay (schedule : ReconnectSchedule) (choice : Nat) : Nat := (schedule.rest choice).toMillis

def failed (schedule : ReconnectSchedule) : ReconnectSchedule :=
  { schedule with failures := min (schedule.failures + 1) maxFailures }

def reset (schedule : ReconnectSchedule) : ReconnectSchedule := { schedule with failures := 0 }

end ReconnectSchedule

end ClusterDriver
