import ClusterDriver.Metrics.Histogram
import Mathlib.Algebra.Order.Ring.Nat

set_option autoImplicit false

namespace ClusterDriver.Histogram

variable {latency decade bin : Nat}

theorem decadeStart_pos (decade : Nat) : 0 < decadeStart decade := Nat.pow_pos (by decide)

theorem decadeStart_succ (decade : Nat) : decadeStart (decade + 1) = decadeStart decade * 10 := rfl

theorem decadeStart_mono {earlier later : Nat} (le : earlier ≤ later) :
    decadeStart earlier ≤ decadeStart later :=
  Nat.pow_le_pow_right (by decide) le

theorem lt_length_passed (count : Nat) : decade < ((List.range count).filter fun decade =>
    decadeStart (decade + 1) ≤ latency).length ↔
      decade < count ∧ decadeStart (decade + 1) ≤ latency := by
  -- The decades that a latency has left behind are the first ones, so their number tells them.
  induction count with
  | zero => simp
  | succ count ih =>
    by_cases passed : decadeStart (count + 1) ≤ latency
    · have all : (List.range count).filter (fun decade => decadeStart (decade + 1) ≤ latency) =
          List.range count := by
        rw [List.filter_eq_self]
        intro earlier member
        have before : earlier + 1 ≤ count + 1 := Nat.succ_le_succ (List.mem_range.1 member).le
        exact decide_eq_true ((decadeStart_mono before).trans passed)
      simp only [List.range_succ, List.filter_append, all, List.filter_cons, passed, decide_true,
        if_true, List.filter_nil, List.length_append, List.length_range, List.length_singleton]
      constructor
      · intro less
        exact ⟨less, (decadeStart_mono less).trans passed⟩
      · exact fun both => both.1
    · simp only [List.range_succ, List.filter_append, List.filter_cons, passed, decide_false,
        Bool.false_eq_true, if_false, List.filter_nil, List.append_nil, ih]
      constructor
      · exact fun ⟨less, reached⟩ => ⟨Nat.lt_succ_of_lt less, reached⟩
      · intro ⟨less, reached⟩
        have other : decade ≠ count := fun same => passed (same ▸ reached)
        exact ⟨by omega, reached⟩

theorem lt_decadeOf : decade < decadeOf latency ↔
    decade < decades ∧ decadeStart (decade + 1) ≤ latency :=
  lt_length_passed decades

theorem decadeStart_decadeOf_le (positive : 1 ≤ latency) :
    decadeStart (decadeOf latency) ≤ latency := by
  cases last : decadeOf latency with
  | zero => exact positive
  | succ decade => exact (lt_decadeOf.1 (last ▸ Nat.lt_succ_self decade)).2

theorem lt_decadeStart (inside : decadeOf latency < decades) :
    latency < decadeStart (decadeOf latency + 1) := by
  apply Nat.lt_of_not_le
  intro beyond
  exact Nat.lt_irrefl _ (lt_decadeOf.2 ⟨inside, beyond⟩)

theorem leading_pos (positive : 1 ≤ latency) : 0 < latency / decadeStart (decadeOf latency) :=
  Nat.div_pos (decadeStart_decadeOf_le positive) (decadeStart_pos _)

theorem leading_lt (inside : decadeOf latency < decades) :
    latency / decadeStart (decadeOf latency) < 10 :=
  Nat.div_lt_of_lt_mul (lt_decadeStart inside)

theorem boundsOf_overflow (beyond : binCount - 1 ≤ bin) :
    boundsOf bin = (decadeStart decades, decadeStart decades * 10) :=
  if_pos beyond

theorem boundsOf_digit {digit : Nat} (inside : decade < decades) (single : digit < 9) :
    boundsOf (decade * 9 + digit) =
      ((digit + 1) * decadeStart decade, (digit + 2) * decadeStart decade) := by
  have regular : ¬binCount - 1 ≤ decade * 9 + digit := by
    simp only [binCount, decades] at *
    omega
  have quotient : (decade * 9 + digit) / 9 = decade := by omega
  have remainder : (decade * 9 + digit) % 9 = digit := by omega
  simp only [boundsOf, regular, if_false, quotient, remainder]

theorem exists_digit (regular : bin < binCount - 1) :
    ∃ decade digit, decade < decades ∧ digit < 9 ∧ bin = decade * 9 + digit := by
  refine ⟨bin / 9, bin % 9, ?_, Nat.mod_lt _ (by decide), by omega⟩
  simp only [binCount] at regular
  omega

theorem bounds_pos (bin : Nat) : 0 < (boundsOf bin).1 := by
  by_cases regular : bin < binCount - 1
  · obtain ⟨decade, digit, inside, single, rfl⟩ := exists_digit regular
    rw [boundsOf_digit inside single]
    exact Nat.mul_pos (Nat.succ_pos _) (decadeStart_pos _)
  · rw [boundsOf_overflow (Nat.le_of_not_lt regular)]
    exact decadeStart_pos _

theorem bounds_lt (bin : Nat) : (boundsOf bin).1 < (boundsOf bin).2 := by
  by_cases regular : bin < binCount - 1
  · obtain ⟨decade, digit, inside, single, rfl⟩ := exists_digit regular
    rw [boundsOf_digit inside single]
    exact Nat.mul_lt_mul_of_pos_right (Nat.lt_succ_self _) (decadeStart_pos _)
  · rw [boundsOf_overflow (Nat.le_of_not_lt regular)]
    exact lt_mul_of_one_lt_right (decadeStart_pos _) (by decide)

theorem bounds_le (bin : Nat) : (boundsOf bin).1 ≤ (boundsOf bin).2 := (bounds_lt bin).le

theorem bounds_adjoin (regular : bin < binCount - 1) :
    (boundsOf bin).2 = (boundsOf (bin + 1)).1 := by
  obtain ⟨decade, digit, inside, single, rfl⟩ := exists_digit regular
  rw [boundsOf_digit inside single]
  by_cases within : digit + 1 < 9
  · rw [Nat.add_assoc, boundsOf_digit inside within]
  · obtain rfl : digit = 8 := by omega
    have next : decade * 9 + 8 + 1 = (decade + 1) * 9 + 0 := by omega
    rw [next]
    by_cases more : decade + 1 < decades
    · rw [boundsOf_digit more (by decide), decadeStart_succ]
      omega
    · obtain rfl : decade = 7 := by
        simp only [decades] at *
        omega
      rfl

theorem bounds_ordered {earlier later : Nat} (before : earlier < later)
    (last : later ≤ binCount - 1) : (boundsOf earlier).2 ≤ (boundsOf later).1 := by
  induction later, before using Nat.le_induction with
  | base => exact Nat.le_of_eq (bounds_adjoin last)
  | succ between _ ih =>
    calc (boundsOf earlier).2 ≤ (boundsOf between).1 := ih (Nat.le_of_lt last)
      _ ≤ (boundsOf between).2 := bounds_le between
      _ = (boundsOf (between + 1)).1 := bounds_adjoin last

theorem bounds_le_overflow {bin : Nat} (regular : bin < binCount) :
    (boundsOf bin).2 ≤ (boundsOf (binCount - 1)).2 := by
  by_cases last : bin < binCount - 1
  · exact (bounds_ordered last (Nat.le_refl _)).trans (bounds_le _)
  · have same : bin = binCount - 1 := by omega
    rw [same]

theorem binOf_cases (latency : Nat) :
    (binOf latency = binCount - 1 ∧ decadeStart decades ≤ max latency 1) ∨
      ∃ decade digit, decade < decades ∧ digit < 9 ∧ binOf latency = decade * 9 + digit ∧
        (digit + 1) * decadeStart decade ≤ max latency 1 ∧
        max latency 1 < (digit + 2) * decadeStart decade := by
  have positive := Nat.le_max_right latency 1
  simp only [binOf]
  generalize max latency 1 = latency at *
  by_cases beyond : decades ≤ decadeOf latency
  · rw [if_pos beyond]
    exact .inl ⟨rfl, (decadeStart_mono beyond).trans (decadeStart_decadeOf_le positive)⟩
  · rw [if_neg beyond]
    have inside := Nat.lt_of_not_le beyond
    have few := leading_lt inside
    have reached := Nat.div_mul_le_self latency (decadeStart (decadeOf latency))
    have short := Nat.lt_mul_div_succ latency (decadeStart_pos (decadeOf latency))
    obtain ⟨digit, leading⟩ := Nat.exists_eq_add_one.2 (leading_pos positive)
    rw [leading] at few reached short ⊢
    rw [Nat.mul_comm] at short
    exact .inr ⟨decadeOf latency, digit, inside, Nat.lt_of_succ_lt_succ few, rfl, reached, short⟩

theorem binOf_lt (latency : Nat) : binOf latency < binCount := by
  rcases binOf_cases latency with ⟨last, -⟩ | ⟨decade, digit, inside, single, same, -, -⟩
  · rw [last]
    decide
  · simp only [same, binCount, decades] at *
    omega

theorem bounds_binOf_le (latency : Nat) : (boundsOf (binOf latency)).1 ≤ max latency 1 := by
  rcases binOf_cases latency with ⟨last, reached⟩ | ⟨_, _, inside, single, same, reached, -⟩
  · rw [last, boundsOf_overflow (Nat.le_refl _)]
    exact reached
  · rw [same, boundsOf_digit inside single]
    exact reached

theorem lt_bounds_binOf (regular : binOf latency < binCount - 1) :
    max latency 1 < (boundsOf (binOf latency)).2 := by
  rcases binOf_cases latency with ⟨last, -⟩ | ⟨_, _, inside, single, same, -, short⟩
  · exact absurd last (Nat.ne_of_lt regular)
  · rw [same, boundsOf_digit inside single]
    exact short

theorem binOf_mono {shorter longer : Nat} (le : shorter ≤ longer) :
    binOf shorter ≤ binOf longer := by
  apply Nat.le_of_not_lt
  intro before
  have last := binOf_lt shorter
  have regular : binOf longer < binCount - 1 := by omega
  have short : max longer 1 < max shorter 1 :=
    calc max longer 1 < (boundsOf (binOf longer)).2 := lt_bounds_binOf regular
      _ ≤ (boundsOf (binOf shorter)).1 := bounds_ordered before (by omega)
      _ ≤ max shorter 1 := bounds_binOf_le shorter
  omega

end ClusterDriver.Histogram
