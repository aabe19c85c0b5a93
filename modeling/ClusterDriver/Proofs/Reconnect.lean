import ClusterDriver.Reconnect
import Mathlib.Algebra.Order.Ring.Nat
import Mathlib.Data.List.Induction

set_option autoImplicit false

namespace ClusterDriver

inductive ConnectResult where
  | connected
  | failed (choice : Nat)
deriving DecidableEq

def ConnectResult.isFailed : ConnectResult → Bool
  | .connected => false
  | .failed _ => true

namespace ReconnectSchedule

/-- How many attempts have failed since the last that did not. -/
def failuresOf (results : List ConnectResult) : Nat :=
  (results.reverse.takeWhile (·.isFailed)).length

@[simp] theorem failuresOf_connected (results : List ConnectResult) :
    failuresOf (results ++ [.connected]) = 0 := by
  simp [failuresOf, ConnectResult.isFailed]

@[simp] theorem failuresOf_failed (results : List ConnectResult) (choice : Nat) :
    failuresOf (results ++ [.failed choice]) = failuresOf results + 1 := by
  simp [failuresOf, ConnectResult.isFailed]

def add (schedule : ReconnectSchedule) : ConnectResult → ReconnectSchedule
  | .connected => schedule.reset
  | .failed _ => schedule.failed

def after (schedule : ReconnectSchedule) (results : List ConnectResult) : ReconnectSchedule :=
  results.foldl add schedule

theorem after_concat (schedule : ReconnectSchedule) (results : List ConnectResult)
    (result : ConnectResult) :
    schedule.after (results ++ [result]) = (schedule.after results).add result := by
  simp [after]

variable {base most : Duration}

theorem after_eq (base most : Duration) (results : List ConnectResult) :
    (ofDurations base most).after results =
      { ofDurations base most with failures := min (failuresOf results) maxFailures } := by
  induction results using List.reverseRecOn with
  | nil => rfl
  | append_singleton results result ih =>
    rw [after_concat, ih]
    cases result with
    | connected => simp [add, reset]
    | failed choice =>
      simp only [add, failed, failuresOf_failed, mk.injEq, true_and]
      omega

theorem after_connected (base most : Duration) (results : List ConnectResult) :
    (ofDurations base most).after (results ++ [.connected]) = ofDurations base most := by
  rw [after_eq, failuresOf_connected]
  rfl

theorem factor_eq (failures : Nat) : factor failures = 2 ^ min failures 31 := by
  have : 2 ^ min failures 31 ≤ 2 ^ 31 := Nat.pow_le_pow_right (by decide) (Nat.min_le_right _ _)
  exact Nat.min_eq_left (Nat.le_trans this (by decide))

theorem factor_min_maxFailures (failures : Nat) :
    factor (min failures maxFailures) = factor failures := by
  have : 31 ≤ maxFailures := by decide
  rw [factor_eq, factor_eq, Nat.min_assoc, Nat.min_eq_right this]

def Fit (base most : Duration) : Prop :=
  base.nanos ≤ (Duration.ofMillis (UInt64.size - 1)).nanos ∧
    most.nanos ≤ (Duration.ofMillis (UInt64.size - 1)).nanos

theorem Fit.max_le (fit : Fit base most) :
    max base.nanos most.nanos ≤ (Duration.ofMillis (UInt64.size - 1)).nanos :=
  Nat.max_le.2 fit

theorem bound_after (fit : Fit base most) (results : List ConnectResult) :
    ((ofDurations base most).after results).bound.nanos =
      min (base.nanos * 2 ^ min (failuresOf results) 31) (max base.nanos most.nanos) := by
  have told : max base.nanos most.nanos ≤ longest.nanos :=
    Nat.le_trans fit.max_le (by decide)
  rw [after_eq]
  simp only [bound, factor_min_maxFailures, ofDurations]
  rw [factor_eq, Nat.min_assoc, Nat.min_eq_right told]

theorem bound_after_le (fit : Fit base most) (results : List ConnectResult) :
    ((ofDurations base most).after results).bound.nanos ≤ max base.nanos most.nanos := by
  rw [bound_after fit]
  exact Nat.min_le_right _ _

theorem bound_after_mono (fit : Fit base most) {fewer more : List ConnectResult}
    (le : failuresOf fewer ≤ failuresOf more) :
    ((ofDurations base most).after fewer).bound.nanos ≤
      ((ofDurations base most).after more).bound.nanos := by
  rw [bound_after fit, bound_after fit]
  have doubled : 2 ^ min (failuresOf fewer) 31 ≤ 2 ^ min (failuresOf more) 31 :=
    Nat.pow_le_pow_right (by decide) (by omega)
  have := Nat.mul_le_mul_left base.nanos doubled
  omega

theorem ceiling_after_lt (fit : Fit base most) (results : List ConnectResult) :
    ((ofDurations base most).after results).ceiling < UInt64.size := by
  have := Nat.le_trans (bound_after_le fit results) fit.max_le
  simp only [ceiling, Duration.toMillis, Duration.ofMillis] at *
  have : 0 < UInt64.size := by decide
  omega

theorem bound_after_zero {results : List ConnectResult} (fit : Fit base most)
    (fresh : failuresOf results = 0) : ((ofDurations base most).after results).bound = base := by
  have same : ((ofDurations base most).after results).bound.nanos = base.nanos := by
    rw [bound_after fit, fresh]
    simp
  exact congrArg Duration.mk same

theorem rest_le {schedule : ReconnectSchedule} (choice : Nat) :
    (schedule.rest choice).nanos ≤ schedule.bound.nanos := by
  have millis : schedule.ceiling % UInt64.size ≤ schedule.bound.nanos / 1000000 := Nat.mod_le _ _
  simp only [rest]
  split
  next => exact Nat.le_refl _
  next =>
    have chosen := Nat.mod_lt choice (Nat.succ_pos
      (schedule.ceiling % UInt64.size - schedule.ceiling % UInt64.size / 2))
    simp only [Duration.ofMillis, Nat.succ_eq_add_one] at *
    omega

theorem le_rest {schedule : ReconnectSchedule} (small : schedule.ceiling < UInt64.size)
    (choice : Nat) : (Duration.ofMillis (schedule.ceiling / 2)).nanos ≤
      (schedule.rest choice).nanos := by
  simp only [rest, Nat.mod_eq_of_lt small]
  split
  next short =>
    have : schedule.ceiling / 2 = 0 := by omega
    simp [Duration.ofMillis, this]
  next => exact Nat.mul_le_mul_right _ (Nat.le_add_right _ _)

theorem delay_le {schedule : ReconnectSchedule} (choice : Nat) :
    schedule.delay choice ≤ schedule.ceiling :=
  Nat.div_le_div_right (rest_le choice)

theorem le_delay {schedule : ReconnectSchedule} (small : schedule.ceiling < UInt64.size)
    (choice : Nat) : schedule.ceiling / 2 ≤ schedule.delay choice :=
  (Nat.le_div_iff_mul_le (by decide)).2 (le_rest small choice)

end ReconnectSchedule

end ClusterDriver
