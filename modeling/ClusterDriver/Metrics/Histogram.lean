/-!
Latency histograms. Each decade from one microsecond to a hundred seconds has nine bins, one per
leading digit; all longer latencies share one last bin.
-/

set_option autoImplicit false

namespace ClusterDriver

/-- Counts per bin and the sum of all samples, which wraps at 64 bits. -/
structure Histogram where
  bins : List Nat
  total : UInt64
  samples : Nat
deriving DecidableEq, Repr

namespace Histogram

def decades : Nat := 8

def binCount : Nat := decades * 9 + 1

def empty : Histogram := ⟨List.replicate binCount 0, 0, 0⟩

instance : Inhabited Histogram := ⟨empty⟩

def decadeStart (decade : Nat) : Nat := Nat.pow 10 decade

def decadeOf (latency : Nat) : Nat :=
  ((List.range decades).filter fun decade => decadeStart (decade + 1) ≤ latency).length

def binOf (latency : Nat) : Nat :=
  -- No latency is shorter than one microsecond.
  let latency := max latency 1
  let decade := decadeOf latency
  if decades ≤ decade then binCount - 1
  else decade * 9 + (latency / decadeStart decade - 1)

def boundsOf (bin : Nat) : Nat × Nat :=
  if binCount - 1 ≤ bin then (decadeStart decades, decadeStart decades * 10)
  else
    let unit := decadeStart (bin / 9)
    ((bin % 9 + 1) * unit, (bin % 9 + 2) * unit)

def record (histogram : Histogram) (latency : Nat) : Histogram where
  bins := histogram.bins.modify (binOf latency) (· + 1)
  total := histogram.total + UInt64.ofNat latency
  samples := histogram.samples + 1

def exactPart (width share count : Nat) : Nat := width * share / count

def roundedPart (width share count : Nat) : Nat :=
  -- The quotient is rounded before it is multiplied.
  let fraction := (UInt64.ofNat share).toFloat / (UInt64.ofNat count).toFloat
  ((UInt64.ofNat width).toFloat * fraction).toUInt64.toNat

def locate (part : Nat → Nat → Nat → Nat) (rank : Nat) : Nat → Nat → List Nat → Nat
  | _, _, [] => (boundsOf (binCount - 1)).2
  | bin, seen, count :: rest =>
      if count = 0 then locate part rank (bin + 1) seen rest
      else if rank ≤ seen + count then
        let (lower, upper) := boundsOf bin
        lower + part (upper - lower) (rank - seen) count - 1
      else locate part rank (bin + 1) (seen + count) rest

def rankOf (samples percentile : Nat) : Nat := max ((samples * percentile + 99) / 100) 1

def percentileBy (part : Nat → Nat → Nat → Nat) (histogram : Histogram) (percentile : Nat) : Nat :=
  if histogram.samples = 0 then 0
  else locate part (rankOf histogram.samples percentile) 0 0 histogram.bins

structure Summary where
  samples : Nat := 0
  average : Nat := 0
  median : Nat := 0
  percentile95 : Nat := 0
  percentile99 : Nat := 0
deriving DecidableEq, Repr, Inhabited

def summaryBy (part : Nat → Nat → Nat → Nat) (histogram : Histogram) : Summary :=
  if histogram.samples = 0 then {}
  else {
    samples := histogram.samples
    average := histogram.total.toNat / histogram.samples
    median := histogram.percentileBy part 50
    percentile95 := histogram.percentileBy part 95
    percentile99 := histogram.percentileBy part 99
  }

def summary (histogram : Histogram) : Summary := histogram.summaryBy roundedPart

end Histogram

end ClusterDriver
