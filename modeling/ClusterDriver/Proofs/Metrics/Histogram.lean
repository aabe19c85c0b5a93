import ClusterDriver.Proofs.Metrics.Bins
import Mathlib.Algebra.BigOperators.Group.List.Basic

set_option autoImplicit false

namespace ClusterDriver.Histogram

def ofSamples (latencies : List Nat) : Histogram := latencies.foldl record empty

structure Within (limit : Nat) (histogram : Histogram) : Prop where
  samples : histogram.samples ≤ limit
  bins : ∀ count ∈ histogram.bins, count ≤ limit

/-- What a histogram tells of the latencies that it has recorded. -/
structure Tallies (histogram : Histogram) (latencies : List Nat) : Prop where
  samples : histogram.samples = latencies.length
  size : histogram.bins.length = binCount
  before : ∀ bin, (histogram.bins.take bin).sum = latencies.countP (binOf · < bin)

theorem sum_take_modify {bins : List Nat} {bin : Nat} (inside : bin < bins.length) (size : Nat) :
    ((bins.modify bin (· + 1)).take size).sum =
      (bins.take size).sum + if bin < size then 1 else 0 := by
  induction bins generalizing bin size with
  | nil => cases inside
  | cons count rest ih =>
    cases size with
    | zero => simp
    | succ size =>
      cases bin with
      | zero => simp [Nat.add_right_comm]
      | succ bin =>
        have within : bin < rest.length := Nat.lt_of_succ_lt_succ inside
        simp [ih within, Nat.add_assoc]

namespace Tallies

variable {histogram : Histogram} {latencies : List Nat}

theorem empty : Histogram.empty.Tallies [] where
  samples := rfl
  size := List.length_replicate
  before bin := by simp [Histogram.empty, List.take_replicate]

theorem record (tallies : histogram.Tallies latencies) (latency : Nat) :
    (histogram.record latency).Tallies (latencies ++ [latency]) where
  samples := by simp [Histogram.record, tallies.samples]
  size := by simp [Histogram.record, tallies.size]
  before bin := by
    have inside : binOf latency < histogram.bins.length := tallies.size ▸ binOf_lt latency
    simp [Histogram.record, sum_take_modify inside, tallies.before, List.countP_singleton]

theorem recordAll (tallies : histogram.Tallies latencies) (more : List Nat) :
    (more.foldl Histogram.record histogram).Tallies (latencies ++ more) := by
  induction more generalizing histogram latencies with
  | nil => simpa using tallies
  | cons latency rest ih => simpa using ih (tallies.record latency)

theorem sum (tallies : histogram.Tallies latencies) : histogram.bins.sum = histogram.samples := by
  have all : latencies.countP (binOf · < binCount) = latencies.length :=
    List.countP_eq_length.2 fun latency _ => decide_eq_true (binOf_lt latency)
  calc histogram.bins.sum = (histogram.bins.take binCount).sum := by
        rw [← tallies.size, List.take_length]
    _ = latencies.length := by rw [tallies.before, all]
    _ = histogram.samples := tallies.samples.symm

theorem through (tallies : histogram.Tallies latencies) {bin count : Nat}
    (stored : histogram.bins[bin]? = some count) :
    (histogram.bins.take bin).sum + count = latencies.countP (binOf · < bin + 1) := by
  rw [← tallies.before, List.take_add_one, stored, List.sum_append]
  simp

theorem count (tallies : histogram.Tallies latencies) {bin count : Nat}
    (stored : histogram.bins[bin]? = some count) : count = latencies.countP (binOf · = bin) := by
  have through := tallies.through stored
  rw [tallies.before] at through
  have split (latencies : List Nat) : latencies.countP (binOf · < bin + 1) =
      latencies.countP (binOf · < bin) + latencies.countP (binOf · = bin) := by
    induction latencies with
    | nil => rfl
    | cons latency rest ih =>
      simp only [List.countP_cons, ih, decide_eq_true_eq]
      split <;> split <;> split <;> omega
  rw [split latencies] at through
  exact Nat.add_left_cancel through

theorem within (tallies : histogram.Tallies latencies) {limit : Nat}
    (few : latencies.length ≤ limit) : histogram.Within limit where
  samples := tallies.samples ▸ few
  bins count member := by
    obtain ⟨bin, stored⟩ := List.mem_iff_getElem?.1 member
    rw [tallies.count stored]
    exact List.countP_le_length.trans few

end Tallies

theorem tallies_ofSamples (latencies : List Nat) : (ofSamples latencies).Tallies latencies :=
  Tallies.empty.recordAll latencies

theorem samples_ofSamples (latencies : List Nat) :
    (ofSamples latencies).samples = latencies.length :=
  (tallies_ofSamples latencies).samples

end ClusterDriver.Histogram
