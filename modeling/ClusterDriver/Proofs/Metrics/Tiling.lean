import ClusterDriver.Proofs.Metrics.Bins
import Mathlib.Data.Nat.Log

set_option autoImplicit false

namespace ClusterDriver.Histogram

variable {latency decade bin bits number width : Nat}

def Spans (bin latency : Nat) : Prop := (boundsOf bin).1 ≤ latency ∧ latency < (boundsOf bin).2

instance (bin latency : Nat) : Decidable (Spans bin latency) := inferInstanceAs (Decidable (_ ∧ _))

theorem bounds_first : (boundsOf 0).1 = 1 := rfl

theorem bounds_last : boundsOf (binCount - 1) = (10 ^ 8, 10 ^ 9) := by decide

theorem Spans.positive (spans : Spans bin latency) : 1 ≤ latency := (bounds_pos bin).trans_le spans.1

theorem Spans.short (spans : Spans bin latency) (present : bin < binCount) : latency < 10 ^ 9 :=
  calc latency < (boundsOf bin).2 := spans.2
    _ ≤ (boundsOf (binCount - 1)).2 := bounds_le_overflow present
    _ = 10 ^ 9 := congrArg Prod.snd bounds_last

theorem Spans.binOf_eq (spans : Spans bin latency) (present : bin < binCount) :
    binOf latency = bin := by
  have same : max latency 1 = latency := Nat.max_eq_left spans.positive
  obtain ⟨reached, short⟩ := spans
  -- A latency in another bin would be beyond one of the bounds that lie between the two.
  rcases Nat.lt_trichotomy (binOf latency) bin with before | equal | after
  · have regular : binOf latency < binCount - 1 := by omega
    have below := lt_bounds_binOf regular
    have ordered := bounds_ordered before (Nat.le_sub_one_of_lt present)
    omega
  · exact equal
  · have above := bounds_binOf_le latency
    have ordered := bounds_ordered after (Nat.le_sub_one_of_lt (binOf_lt latency))
    omega

theorem spans_binOf (short : latency < 10 ^ 9) : Spans (binOf latency) (max latency 1) := by
  refine ⟨bounds_binOf_le latency, ?_⟩
  by_cases regular : binOf latency < binCount - 1
  · exact lt_bounds_binOf regular
  · have present := binOf_lt latency
    have last : binOf latency = binCount - 1 := by omega
    rw [last, bounds_last]
    omega

theorem existsUnique_spans : (∃! bin, bin < binCount ∧ Spans bin latency) ↔
    1 ≤ latency ∧ latency < 10 ^ 9 := by
  constructor
  · rintro ⟨bin, ⟨present, spans⟩, -⟩
    exact ⟨spans.positive, spans.short present⟩
  · rintro ⟨positive, short⟩
    have spans := spans_binOf short
    rw [Nat.max_eq_left positive] at spans
    refine ⟨binOf latency, ⟨binOf_lt latency, spans⟩, ?_⟩
    rintro bin ⟨present, others⟩
    exact (others.binOf_eq present).symm

theorem binOf_eq_last_iff : binOf latency = binCount - 1 ↔ 10 ^ 8 ≤ latency := by
  have first : (boundsOf (binCount - 1)).1 = 10 ^ 8 := congrArg Prod.fst bounds_last
  constructor
  · intro last
    have reached := bounds_binOf_le latency
    rw [last, first] at reached
    omega
  · intro long
    by_contra other
    have present := binOf_lt latency
    have regular : binOf latency < binCount - 1 := by omega
    have short := lt_bounds_binOf regular
    have ordered := bounds_ordered regular (Nat.le_refl _)
    omega

def word? (bits number : Nat) : Option Nat := if number < 2 ^ bits then some number else none

def minus? (number less : Nat) : Option Nat := if less ≤ number then some (number - less) else none

def log? (number : Nat) : Option Nat := if number = 0 then none else some (Nat.log 10 number)

/-- The bin of a latency, if all numbers on the way to it are in words. Those for bins have `width`
bits. -/
def binOf? (width : Nat) (latency : UInt64) : Option Nat := do
  let latency := max latency.toNat 1
  let exponent ← log? latency
  let decade ← word? width exponent
  if decades ≤ decade then
    let last ← minus? binCount 1
    word? width last
  else
    let unit ← word? 64 (decadeStart decade)
    let leading ← word? width (latency / unit)
    let first ← word? width (decade * 9)
    let digit ← minus? leading 1
    word? width (first + digit)

def boundsOf? (bin : Nat) : Option (Nat × Nat) := do
  let last ← minus? binCount 1
  if last ≤ bin then
    let lower ← word? 64 (decadeStart decades)
    let upper ← word? 64 (lower * 10)
    return (lower, upper)
  else
    let decade ← word? 32 (bin / 9)
    let leading ← word? 64 (bin % 9 + 1)
    let unit ← word? 64 (decadeStart decade)
    let lower ← word? 64 (leading * unit)
    let following ← word? 64 (leading + 1)
    let upper ← word? 64 (following * unit)
    return (lower, upper)

theorem word?_eq (fits : number < 2 ^ bits) : word? bits number = some number := if_pos fits

theorem minus?_eq {less : Nat} (le : less ≤ number) : minus? number less = some (number - less) :=
  if_pos le

theorem log?_eq (positive : 1 ≤ number) : log? number = some (Nat.log 10 number) :=
  if_neg (Nat.ne_of_gt positive)

theorem word?_bind {α : Type} (fits : number < 2 ^ bits) (rest : Nat → Option α) :
    (word? bits number).bind rest = rest number := by
  rw [word?_eq fits, Option.bind_some]

theorem decadeOf_eq_log (positive : 1 ≤ latency) :
    decadeOf latency = min decades (Nat.log 10 latency) := by
  refine eq_of_forall_lt_iff fun decade => ?_
  rw [lt_decadeOf, lt_min_iff]
  exact and_congr_right fun _ =>
    (Nat.le_log_iff_pow_le (by decide) (Nat.ne_of_gt positive)).symm

theorem decadeStart_fits (atMost : decade ≤ decades) : decadeStart decade < 2 ^ 64 :=
  (decadeStart_mono atMost).trans_lt (by decide)

theorem binOf?_eq (wide : 7 ≤ width) (latency : UInt64) :
    binOf? width latency = some (binOf latency.toNat) := by
  have room : 2 ^ 7 ≤ 2 ^ width := Nat.pow_le_pow_right (by decide) wide
  have positive : 1 ≤ max latency.toNat 1 := Nat.le_max_right _ _
  -- A word of 64 bits has twenty digits at most, so its logarithm is small.
  have bounded : max latency.toNat 1 < 10 ^ 20 := by
    have below := latency.toNat_lt
    omega
  simp only [binOf?, Option.bind_eq_bind, binOf]
  generalize max latency.toNat 1 = latency at *
  have exponent : Nat.log 10 latency < 20 :=
    Nat.log_lt_of_lt_pow (Nat.ne_of_gt positive) bounded
  have log := decadeOf_eq_log positive
  rw [log?_eq positive, Option.bind_some, word?_bind (by omega)]
  by_cases beyond : decades ≤ Nat.log 10 latency
  · rw [if_pos beyond, if_pos (log ▸ le_min (Nat.le_refl _) beyond), minus?_eq (by decide),
      Option.bind_some]
    exact word?_eq (Nat.lt_of_lt_of_le (by decide) room)
  · have same : Nat.log 10 latency = decadeOf latency := by omega
    rw [same] at beyond ⊢
    have inside := Nat.lt_of_not_le beyond
    have first : decadeOf latency * 9 ≤ 63 := Nat.mul_le_mul_right 9 (Nat.le_of_lt_succ inside)
    have some := leading_pos positive
    have few := leading_lt inside
    rw [if_neg beyond, if_neg beyond, word?_bind (decadeStart_fits inside.le),
      word?_bind (by omega), word?_bind (by omega), minus?_eq some, Option.bind_some]
    exact word?_eq (by omega)

-- The number of the last bin has seven bits.
example : binOf? 6 (10 ^ 8) = none := by decide

theorem boundsOf?_eq (bin : Nat) : boundsOf? bin = some (boundsOf bin) := by
  simp only [boundsOf?, Option.bind_eq_bind, boundsOf]
  rw [minus?_eq (by decide), Option.bind_some]
  by_cases beyond : binCount - 1 ≤ bin
  · rw [if_pos beyond, if_pos beyond, word?_bind (by decide), word?_bind (by decide)]
    rfl
  · rw [if_neg beyond, if_neg beyond]
    have regular : bin < 72 := Nat.lt_of_not_le beyond
    have digit : bin % 9 < 9 := Nat.mod_lt _ (by decide)
    have inside : bin / 9 ≤ decades := Nat.div_le_of_le_mul regular.le
    have product {digit : Nat} (single : digit ≤ 10) : digit * decadeStart (bin / 9) < 2 ^ 64 :=
      (Nat.mul_le_mul single (decadeStart_mono inside)).trans_lt (by decide)
    rw [word?_bind (by omega), word?_bind (by omega), word?_bind (decadeStart_fits inside),
      word?_bind (product (by omega)), word?_bind (by omega), word?_bind (product (by omega))]
    rfl

/-- Each latency from one microsecond to below a thousand seconds is within the bounds of one bin
only, and is put there; those from a hundred seconds on go into the last bin. No power, difference
or bin on the way is too large or too small for its word. -/
theorem bins_tile :
    (∀ width ≥ 7, ∀ latency : UInt64, binOf? width latency = some (binOf latency.toNat)) ∧
      (∀ bin, boundsOf? bin = some (boundsOf bin)) ∧
      (∀ latency, binOf latency < binCount) ∧
      (∀ shorter longer, shorter ≤ longer → binOf shorter ≤ binOf longer) ∧
      (∀ latency < 10 ^ 9, Spans (binOf latency) (max latency 1)) ∧
      (∀ latency, binOf latency = binCount - 1 ↔ 10 ^ 8 ≤ latency) ∧
      (∀ bin < binCount, ∀ latency, Spans bin latency → binOf latency = bin) ∧
      (boundsOf 0).1 = 1 ∧ (boundsOf (binCount - 1)).2 = 10 ^ 9 ∧
      (∀ bin < binCount - 1, (boundsOf bin).2 = (boundsOf (bin + 1)).1) ∧
      ∀ latency, (∃! bin, bin < binCount ∧ Spans bin latency) ↔
        1 ≤ latency ∧ latency < 10 ^ 9 := by
  refine ⟨?_, boundsOf?_eq, binOf_lt, ?_, ?_, ?_, ?_, bounds_first, ?_, ?_, ?_⟩
  · intro width wide latency
    exact binOf?_eq wide latency
  · intro shorter longer le
    exact binOf_mono le
  · intro latency short
    exact spans_binOf short
  · intro latency
    exact binOf_eq_last_iff
  · intro bin present latency spans
    exact spans.binOf_eq present
  · exact congrArg Prod.snd bounds_last
  · intro bin regular
    exact bounds_adjoin regular
  · intro latency
    exact existsUnique_spans

theorem edges_tile :
    binOf? 64 9999 = some 35 ∧ boundsOf? 35 = some (9000, 10000) ∧ binOf 9999 ≤ binOf 10000 ∧
      Spans (binOf 9999) (max 9999 1) ∧ binOf 10000 = 36 ∧ (boundsOf 35).2 = (boundsOf 36).1 ∧
      (∃! bin, bin < binCount ∧ Spans bin 9999) ∧
      binOf? 64 18446744073709551615 = some (binCount - 1) := by
  obtain ⟨words, bounds, -, rise, within, last, put, -, -, adjoin, tiles⟩ := bins_tile
  have edge : binOf 9999 = 35 := put 35 (by decide) 9999 (by decide)
  have longest := words 64 (by decide) 18446744073709551615
  rw [(last _).2 (by decide)] at longest
  exact ⟨edge ▸ words 64 (by decide) 9999, bounds 35, rise 9999 10000 (by decide),
    within 9999 (by decide), put 36 (by decide) 10000 (by decide), adjoin 35 (by decide),
    (tiles 9999).2 (by decide), longest⟩

end ClusterDriver.Histogram
