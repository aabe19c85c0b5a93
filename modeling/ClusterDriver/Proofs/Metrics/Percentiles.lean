import ClusterDriver.Proofs.Metrics.Histogram
import Mathlib.Algebra.Order.BigOperators.Group.List
import Mathlib.Algebra.Order.Floor.Div

set_option autoImplicit false

namespace ClusterDriver.Histogram

/-- A bin that a scan stops at, the samples before it and those in it. -/
structure Stop where
  bin : Nat
  before : Nat
  count : Nat
deriving DecidableEq, Repr

def stop? (rank : Nat) : Nat → Nat → List Nat → Option Stop
  | _, _, [] => none
  | bin, seen, count :: rest =>
      if count = 0 then stop? rank (bin + 1) seen rest
      else if rank ≤ seen + count then some ⟨bin, seen, count⟩
      else stop? rank (bin + 1) (seen + count) rest

def Stop.estimate (part : Nat → Nat → Nat → Nat) (rank : Nat) (stop : Stop) : Nat :=
  (boundsOf stop.bin).1 +
    part ((boundsOf stop.bin).2 - (boundsOf stop.bin).1) (rank - stop.before) stop.count - 1

structure Stop.Covers (stop : Stop) (rank : Nat) (bins : List Nat) : Prop where
  stored : bins[stop.bin]? = some stop.count
  before : stop.before = (bins.take stop.bin).sum
  after : stop.before < rank
  reached : rank ≤ stop.before + stop.count

variable {part : Nat → Nat → Nat → Nat} {rank bin seen : Nat} {bins : List Nat}

theorem locate_eq (part : Nat → Nat → Nat → Nat) (rank bin seen : Nat) (bins : List Nat) :
    locate part rank bin seen bins =
      ((stop? rank bin seen bins).map (·.estimate part rank)).getD (boundsOf (binCount - 1)).2 := by
  induction bins generalizing bin seen with
  | nil =>
    -- The bound of the last bin is too large a number to be computed by counting.
    rw [locate, stop?, Option.map_none, Option.getD_none]
  | cons count rest ih =>
    by_cases empty : count = 0
    · simp only [locate, stop?, empty, if_true]
      exact ih (bin + 1) seen
    · by_cases reached : rank ≤ seen + count
      · cases bounds : boundsOf bin
        simp only [locate, stop?, Stop.estimate, empty, reached, bounds, if_true, if_false,
          Option.map_some, Option.getD_some]
      · simp only [locate, stop?, empty, reached, if_false]
        exact ih (bin + 1) (seen + count)

theorem locate_eq_estimate {stop : Stop} (found : stop? rank bin seen bins = some stop) :
    locate part rank bin seen bins = stop.estimate part rank := by
  rw [locate_eq, found, Option.map_some, Option.getD_some]

theorem stop?_eq_none_iff (after : seen < rank) :
    stop? rank bin seen bins = none ↔ seen + bins.sum < rank := by
  induction bins generalizing bin seen with
  | nil => simpa [stop?] using after
  | cons count rest ih =>
    rw [List.sum_cons, ← Nat.add_assoc]
    by_cases empty : count = 0
    · simp only [stop?, empty, if_true, Nat.add_zero]
      exact ih after
    · by_cases reached : rank ≤ seen + count
      · simp only [stop?, empty, if_false, reached, if_true, reduceCtorEq, false_iff]
        omega
      · simp only [stop?, empty, if_false, reached]
        exact ih (Nat.lt_of_not_le reached)

theorem stop?_eq_some {stop : Stop} (after : seen < rank)
    (found : stop? rank bin seen bins = some stop) :
    ∃ offset, stop.bin = bin + offset ∧ bins[offset]? = some stop.count ∧
      stop.before = seen + (bins.take offset).sum ∧ stop.before < rank ∧
      rank ≤ stop.before + stop.count := by
  -- Bins are counted from `bin` on, where `seen` samples have been left behind.
  induction bins generalizing bin seen with
  | nil => cases found
  | cons count rest ih =>
    have onward {past : Nat} (moved : past < rank) (same : past = seen + count)
        (later : stop? rank (bin + 1) past rest = some stop) :
        ∃ offset, stop.bin = bin + offset ∧ (count :: rest)[offset]? = some stop.count ∧
          stop.before = seen + ((count :: rest).take offset).sum ∧ stop.before < rank ∧
          rank ≤ stop.before + stop.count := by
      obtain ⟨offset, place, stored, before, inside⟩ := ih moved later
      refine ⟨offset + 1, by omega, stored, ?_, inside⟩
      rw [List.take_succ_cons, List.sum_cons]
      omega
    by_cases empty : count = 0
    · simp only [stop?, empty, if_true] at found
      exact onward after (by omega) found
    · by_cases reached : rank ≤ seen + count
      · simp only [stop?, empty, if_false, reached, if_true, Option.some.injEq] at found
        subst found
        exact ⟨0, rfl, rfl, rfl, after, reached⟩
      · simp only [stop?, empty, if_false, reached] at found
        exact onward (Nat.lt_of_not_le reached) rfl found

theorem exists_stop (positive : 0 < rank) (atMost : rank ≤ bins.sum) :
    ∃ stop, stop? rank 0 0 bins = some stop ∧ stop.Covers rank bins := by
  cases found : stop? rank 0 0 bins with
  | none =>
    have beyond := (stop?_eq_none_iff positive).1 found
    omega
  | some stop =>
    obtain ⟨offset, place, stored, before, after, reached⟩ := stop?_eq_some positive found
    obtain rfl : stop.bin = offset := by omega
    exact ⟨stop, rfl, stored, before.trans (Nat.zero_add _), after, reached⟩

theorem locate_beyond (positive : 0 < rank) (beyond : bins.sum < rank) :
    locate part rank 0 0 bins = (boundsOf (binCount - 1)).2 := by
  rw [locate_eq, (stop?_eq_none_iff positive).2 (by omega), Option.map_none, Option.getD_none]

/-- How the part of a bin grows with the share of its samples. -/
structure Gradual (part : Nat → Nat → Nat → Nat) : Prop where
  within : ∀ width {share count}, share ≤ count → part width share count ≤ width
  rises : ∀ width count {share more}, share ≤ more → part width share count ≤ part width more count

theorem exactPart_gradual : Gradual exactPart where
  within width share _ le :=
    Nat.div_le_of_le_mul ((Nat.mul_comm width share).le.trans (Nat.mul_le_mul_right width le))
  rises width _ _ _ le := Nat.div_le_div_right (Nat.mul_le_mul_left width le)

namespace Stop.Covers

variable {stop other : Stop} {later : Nat}

theorem estimate_bounds (covers : stop.Covers rank bins) (gradual : Gradual part) :
    (boundsOf stop.bin).1 ≤ stop.estimate part rank + 1 ∧
      stop.estimate part rank < (boundsOf stop.bin).2 := by
  have share : rank - stop.before ≤ stop.count := by
    have reached := covers.reached
    omega
  have within := gradual.within ((boundsOf stop.bin).2 - (boundsOf stop.bin).1) share
  have positive := bounds_pos stop.bin
  have ordered := bounds_le stop.bin
  simp only [estimate]
  omega

theorem le_estimate_iff (stop : Stop) : (boundsOf stop.bin).1 ≤ stop.estimate part rank ↔
    1 ≤ part ((boundsOf stop.bin).2 - (boundsOf stop.bin).1) (rank - stop.before) stop.count := by
  have positive := bounds_pos stop.bin
  simp only [estimate]
  omega

theorem bin_lt (covers : stop.Covers rank bins) : stop.bin < bins.length :=
  (List.getElem?_eq_some_iff.1 covers.stored).1

theorem sum_through (covers : stop.Covers rank bins) :
    (bins.take (stop.bin + 1)).sum = stop.before + stop.count := by
  rw [List.take_add_one, covers.stored, List.sum_append, ← covers.before]
  simp

theorem bin_le (covers : stop.Covers rank bins) (others : other.Covers later bins)
    (le : rank ≤ later) : stop.bin ≤ other.bin := by
  apply Nat.le_of_not_lt
  intro before
  have fewer : (bins.take (other.bin + 1)).sum ≤ (bins.take stop.bin).sum :=
    (List.take_sublist_take_left before).sum_le_sum fun _ _ => Nat.zero_le _
  rw [others.sum_through, ← covers.before] at fewer
  have after := covers.after
  have reached := others.reached
  omega

theorem estimate_le (covers : stop.Covers rank bins) (others : other.Covers later bins)
    (size : bins.length = binCount) (gradual : Gradual part) (le : rank ≤ later) :
    stop.estimate part rank ≤ other.estimate part later := by
  rcases Nat.eq_or_lt_of_le (covers.bin_le others le) with same | before
  · have count : other.count = stop.count :=
      Option.some.inj (others.stored.symm.trans (same ▸ covers.stored))
    have past : other.before = stop.before := by rw [others.before, covers.before, same]
    have rises := gradual.rises ((boundsOf stop.bin).2 - (boundsOf stop.bin).1) stop.count
      (Nat.sub_le_sub_right le stop.before)
    simp only [estimate, ← same, count, past]
    omega
  · have last : other.bin ≤ binCount - 1 := Nat.le_sub_one_of_lt (size ▸ others.bin_lt)
    have ordered := bounds_ordered before last
    have high := (covers.estimate_bounds gradual).2
    have low := (others.estimate_bounds gradual).1
    omega

end Stop.Covers

theorem locate_mono (size : bins.length = binCount) (gradual : Gradual part) {later : Nat}
    (positive : 0 < rank) (le : rank ≤ later) :
    locate part rank 0 0 bins ≤ locate part later 0 0 bins := by
  -- Only a rank beyond all samples is not found, and then no later one is.
  by_cases beyond : bins.sum < rank
  · rw [locate_beyond positive beyond, locate_beyond (positive.trans_le le) (beyond.trans_le le)]
  · obtain ⟨stop, found, covers⟩ := exists_stop positive (Nat.le_of_not_lt beyond)
    rw [locate_eq_estimate found]
    by_cases further : bins.sum < later
    · rw [locate_beyond (positive.trans_le le) further]
      have high := (covers.estimate_bounds gradual).2
      have last := bounds_le_overflow (size ▸ covers.bin_lt)
      omega
    · obtain ⟨other, found, others⟩ :=
        exists_stop (positive.trans_le le) (Nat.le_of_not_lt further)
      rw [locate_eq_estimate found]
      exact covers.estimate_le others size gradual le

def Fits (samples percentile : Nat) : Prop := samples * percentile + 99 < 2 ^ 64

variable {samples percentile : Nat}

theorem fits (few : samples < 2 ^ 57) (atMost : percentile ≤ 100) : Fits samples percentile := by
  have product : samples * percentile ≤ 2 ^ 57 * 100 := Nat.mul_le_mul few.le atMost
  simp only [Fits]
  omega

theorem rankOf_pos (samples percentile : Nat) : 0 < rankOf samples percentile :=
  Nat.le_max_right _ 1

theorem rankOf_mono (samples : Nat) {lower upper : Nat} (le : lower ≤ upper) :
    rankOf samples lower ≤ rankOf samples upper := by
  have product := Nat.mul_le_mul_left samples le
  simp only [rankOf]
  omega

theorem rankOf_le (positive : 0 < samples) (atMost : percentile ≤ 100) :
    rankOf samples percentile ≤ samples := by
  have product := Nat.mul_le_mul_left samples atMost
  simp only [rankOf]
  omega

theorem rankOf_eq_ceilDiv (some : 0 < samples) (positive : 0 < percentile) :
    rankOf samples percentile = samples * percentile ⌈/⌉ 100 := by
  have product := Nat.mul_pos some positive
  rw [Nat.ceilDiv_eq_add_pred_div, rankOf]
  omega

variable {histogram : Histogram}

theorem percentileBy_mono (size : histogram.bins.length = binCount) (gradual : Gradual part)
    {lower upper : Nat} (le : lower ≤ upper) :
    histogram.percentileBy part lower ≤ histogram.percentileBy part upper := by
  simp only [percentileBy]
  split
  · exact Nat.le_refl 0
  · exact locate_mono size gradual (rankOf_pos _ _) (rankOf_mono _ le)

theorem exists_stop_percentile {latencies : List Nat} (tallies : histogram.Tallies latencies)
    (nonempty : latencies ≠ []) (atMost : percentile ≤ 100) :
    ∃ stop, stop? (rankOf histogram.samples percentile) 0 0 histogram.bins = some stop ∧
      stop.Covers (rankOf histogram.samples percentile) histogram.bins ∧
      ∀ part, histogram.percentileBy part percentile =
        stop.estimate part (rankOf histogram.samples percentile) := by
  have positive : 0 < histogram.samples := tallies.samples ▸ List.length_pos_iff.2 nonempty
  have known : rankOf histogram.samples percentile ≤ histogram.bins.sum :=
    (rankOf_le positive atMost).trans_eq tallies.sum.symm
  obtain ⟨stop, found, covers⟩ := exists_stop (rankOf_pos _ _) known
  refine ⟨stop, found, covers, ?_⟩
  intro part
  rw [percentileBy, if_neg positive.ne', locate_eq_estimate found]

theorem summaryBy_ordered (size : histogram.bins.length = binCount) (gradual : Gradual part) :
    (histogram.summaryBy part).median ≤ (histogram.summaryBy part).percentile95 ∧
      (histogram.summaryBy part).percentile95 ≤ (histogram.summaryBy part).percentile99 := by
  simp only [summaryBy]
  split
  · exact ⟨Nat.le_refl 0, Nat.le_refl 0⟩
  · exact ⟨percentileBy_mono size gradual (by decide), percentileBy_mono size gradual (by decide)⟩

/-- A higher percentile never has a lower estimate, as long as its rank can be computed. Up to the
hundredth it can, and the scan stops at a bin before it comes to the end of them. -/
theorem percentiles_rise (latencies : List Nat) (few : (ofSamples latencies).samples < 2 ^ 57) :
    let histogram := ofSamples latencies
    (∀ percentile ≤ 100, Fits histogram.samples percentile) ∧
      (∀ lower upper, lower ≤ upper → Fits histogram.samples upper →
        histogram.percentileBy exactPart lower ≤ histogram.percentileBy exactPart upper) ∧
      (histogram.summaryBy exactPart).median ≤ (histogram.summaryBy exactPart).percentile95 ∧
      (histogram.summaryBy exactPart).percentile95 ≤
        (histogram.summaryBy exactPart).percentile99 ∧
      (latencies ≠ [] → ∀ percentile ≤ 100, ∃ stop,
        stop? (rankOf histogram.samples percentile) 0 0 histogram.bins = some stop ∧
        histogram.percentileBy exactPart percentile =
          stop.estimate exactPart (rankOf histogram.samples percentile) ∧
        histogram.percentileBy exactPart percentile < (boundsOf (binCount - 1)).2) := by
  intro histogram
  have tallies : histogram.Tallies latencies := tallies_ofSamples latencies
  have ordered := summaryBy_ordered tallies.size exactPart_gradual
  refine ⟨?_, ?_, ordered.1, ordered.2, ?_⟩
  · intro percentile atMost
    exact fits few atMost
  · intro lower upper le _
    exact percentileBy_mono tallies.size exactPart_gradual le
  · intro nonempty percentile atMost
    obtain ⟨stop, found, covers, estimate⟩ := exists_stop_percentile tallies nonempty atMost
    refine ⟨stop, found, estimate exactPart, ?_⟩
    rw [estimate exactPart]
    exact (covers.estimate_bounds exactPart_gradual).2.trans_le
      (bounds_le_overflow (tallies.size ▸ covers.bin_lt))

def spread : List Nat := [3400, 0, 3999, 250000000, 3000, 40]

theorem spread_percentiles_rise :
    (ofSamples spread).samples < 2 ^ 57 ∧ Fits 6 100 ∧
      (ofSamples spread).summaryBy exactPart = ⟨6, 41668406, 3332, 999999999, 999999999⟩ ∧
      (ofSamples spread).percentileBy exactPart 50 ≤
        (ofSamples spread).percentileBy exactPart 95 ∧
      ∃ stop, stop? (rankOf 6 50) 0 0 (ofSamples spread).bins = some stop := by
  have few : (ofSamples spread).samples < 2 ^ 57 := by decide
  obtain ⟨fits, rise, -, -, stops⟩ := percentiles_rise spread few
  obtain ⟨stop, found, -⟩ := stops (by decide) 50 (by decide)
  exact ⟨few, fits 100 (by decide), by decide, rise 50 95 (by decide) (fits 95 (by decide)),
    stop, found⟩

theorem lt_countP_iff {sorted : List Nat} (increasing : sorted.Pairwise (· ≤ ·))
    (small : Nat → Bool)
    (closed : ∀ {less more}, less ≤ more → small more = true → small less = true)
    {place sample : Nat} (present : sorted[place]? = some sample) :
    place < sorted.countP small ↔ small sample = true := by
  induction sorted generalizing place with
  | nil => cases present
  | cons first rest ih =>
    obtain ⟨least, ordered⟩ := List.pairwise_cons.1 increasing
    by_cases begins : small first = true
    · rw [List.countP_cons_of_pos begins]
      cases place with
      | zero =>
        obtain rfl := Option.some.inj present
        simp [begins]
      | succ place => exact Nat.succ_lt_succ_iff.trans (ih ordered present)
    · have large (other : Nat) (member : other ∈ first :: rest) : ¬small other = true := by
        rcases List.mem_cons.1 member with rfl | later
        · exact begins
        · exact fun holds => begins (closed (least other later) holds)
      rw [List.countP_eq_zero.2 large]
      simp [large sample (List.mem_of_getElem? present)]

theorem Stop.Covers.bin_eq {latencies sorted : List Nat} {stop : Stop} {sample : Nat}
    (tallies : histogram.Tallies latencies) (covers : stop.Covers rank histogram.bins)
    (perm : sorted.Perm latencies) (increasing : sorted.Pairwise (· ≤ ·))
    (present : sorted[rank - 1]? = some sample) : stop.bin = binOf sample := by
  have closed {limit less more : Nat} (le : less ≤ more)
      (small : decide (binOf more < limit) = true) : decide (binOf less < limit) = true :=
    decide_eq_true ((binOf_mono le).trans_lt (of_decide_eq_true small))
  have first := lt_countP_iff increasing (binOf · < stop.bin) closed present
  have second := lt_countP_iff increasing (binOf · < stop.bin + 1) closed present
  rw [perm.countP_eq, decide_eq_true_eq] at first second
  have before := covers.before.trans (tallies.before stop.bin)
  have through := (covers.before ▸ tallies.through covers.stored)
  have after := covers.after
  have reached := covers.reached
  have beyond : ¬binOf sample < stop.bin := fun less => by
    have early := first.2 less
    omega
  have within : binOf sample < stop.bin + 1 := second.1 (by omega)
  omega

theorem exists_ranked {latencies sorted : List Nat} (nonempty : latencies ≠ [])
    (perm : sorted.Perm latencies) (atMost : percentile ≤ 100) :
    ∃ sample, sorted[rankOf latencies.length percentile - 1]? = some sample := by
  have positive := rankOf_pos latencies.length percentile
  have known := rankOf_le (List.length_pos_iff.2 nonempty) atMost
  have inside : rankOf latencies.length percentile - 1 < sorted.length := by
    rw [perm.length_eq]
    omega
  exact ⟨_, List.getElem?_eq_getElem inside⟩

theorem exactPart_pos {width share count : Nat} (some : 0 < count) :
    1 ≤ exactPart width share count ↔ count ≤ width * share := by
  rw [exactPart, Nat.le_div_iff_mul_le some, Nat.one_mul]

/-- An estimate is meant for the bin that holds the sample of its rank. It is below the end of the
bin, and at most one below its beginning; and it is in the bin just if the share of its samples up
to the rank amounts to one microsecond at least. -/
theorem estimate_beside_sample {latencies sorted : List Nat} (nonempty : latencies ≠ [])
    (few : latencies.length < 2 ^ 57) (perm : sorted.Perm latencies)
    (increasing : sorted.Pairwise (· ≤ ·)) (percentile : Nat) (positive : 1 ≤ percentile)
    (atMost : percentile ≤ 100) :
    let rank := latencies.length * percentile ⌈/⌉ 100
    let estimate := (ofSamples latencies).percentileBy exactPart percentile
    Fits latencies.length percentile ∧ ∃ sample, sorted[rank - 1]? = some sample ∧
      let bounds := boundsOf (binOf sample)
      let count := latencies.countP (binOf · = binOf sample)
      let share := rank - latencies.countP (binOf · < binOf sample)
      bounds.1 ≤ estimate + 1 ∧ estimate < bounds.2 ∧ 0 < share ∧ share ≤ count ∧
        (bounds.1 ≤ estimate ↔ count ≤ (bounds.2 - bounds.1) * share) := by
  intro rank estimate
  have tallies := tallies_ofSamples latencies
  have ranked : rankOf latencies.length percentile = rank :=
    rankOf_eq_ceilDiv (List.length_pos_iff.2 nonempty) positive
  obtain ⟨stop, -, covers, estimated⟩ := exists_stop_percentile tallies nonempty atMost
  rw [tallies.samples, ranked] at covers estimated
  obtain ⟨sample, present⟩ := exists_ranked nonempty perm atMost
  rw [ranked] at present
  have bin := covers.bin_eq tallies perm increasing present
  have count := tallies.count covers.stored
  have before := covers.before.trans (tallies.before stop.bin)
  obtain ⟨low, high⟩ := covers.estimate_bounds exactPart_gradual
  have after := covers.after
  have reached := covers.reached
  have some : 0 < stop.count := by omega
  refine ⟨fits few atMost, sample, present, ?_⟩
  simp only [estimate, estimated, ← bin, ← count, ← before, low, high, true_and]
  refine ⟨by omega, by omega, ?_⟩
  rw [Stop.Covers.le_estimate_iff, exactPart_pos some]

theorem pair_estimated_below :
    let latencies := [1, 1]
    let estimate := (ofSamples latencies).percentileBy exactPart 50
    latencies.Pairwise (· ≤ ·) ∧
      latencies[latencies.length * 50 ⌈/⌉ 100 - 1]? = some 1 ∧ boundsOf (binOf 1) = (1, 2) ∧
      estimate = 0 ∧ ¬((boundsOf (binOf 1)).1 ≤ estimate ∧ estimate < (boundsOf (binOf 1)).2) := by
  decide

theorem spread_estimate_beside_sample :
    let sorted := [0, 40, 3000, 3400, 3999, 250000000]
    sorted.Perm spread ∧ sorted.Pairwise (· ≤ ·) ∧ spread.length * 50 ⌈/⌉ 100 = 3 ∧
      ∃ sample, sorted[3 - 1]? = some sample ∧
        (boundsOf (binOf sample)).1 ≤ (ofSamples spread).percentileBy exactPart 50 ∧
        (ofSamples spread).percentileBy exactPart 50 < (boundsOf (binOf sample)).2 := by
  intro sorted
  have perm : sorted.Perm spread := by decide
  have increasing : sorted.Pairwise (· ≤ ·) := by decide
  have rank : spread.length * 50 ⌈/⌉ 100 = 3 := by decide
  obtain ⟨-, sample, present, -, below, -, -, within⟩ :=
    estimate_beside_sample (by decide) (by decide) perm increasing 50 (by decide) (by decide)
  rw [rank] at present within
  obtain rfl : 3000 = sample := Option.some.inj present
  exact ⟨perm, increasing, rank, 3000, present, within.2 (by decide), below⟩

end ClusterDriver.Histogram
