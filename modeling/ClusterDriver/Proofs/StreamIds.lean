import ClusterDriver.Channel.StreamIds
import Mathlib.Data.Finset.Card

set_option autoImplicit false

namespace ClusterDriver.StreamIds

def held (ids : StreamIds) : Finset Nat := {id ∈ Finset.range ids.capacity | ids.isHeld id}

def Holds (ids : StreamIds) (stream : StreamId) : Prop :=
  0 ≤ stream ∧ stream.toNatClampNeg ∈ ids.held

/-- There is a bit for each id, and the counter agrees with the bits. -/
structure Valid (ids : StreamIds) : Prop where
  stored : ids.words.length = (ids.capacity + (wordSize - 1)) / wordSize
  numbered : ids.capacity ≤ maxStreamsLimit
  counted : ids.inUse = ids.held.card

def bitOf (words : List (BitVec 64)) (id : Nat) : Bool :=
  (words.getD (id / wordSize) 0).getLsbD (id % wordSize)

theorem mem_held (ids : StreamIds) (id : Nat) :
    id ∈ ids.held ↔ id < ids.capacity ∧ bitOf ids.words id = true := by
  simp [held, isHeld, bitOf]

theorem number_ofNat {id : Nat} (small : id < maxStreamsLimit) :
    (Int16.ofNat id).toNatClampNeg = id :=
  Int16.toNatClampNeg_ofNat_of_lt small

theorem ofNat_number {stream : StreamId} (nonnegative : 0 ≤ stream) :
    Int16.ofNat stream.toNatClampNeg = stream :=
  Int16.ofNat_toNatClampNeg stream nonnegative

theorem ofNat_nonnegative {id : Nat} (small : id < maxStreamsLimit) : 0 ≤ Int16.ofNat id := by
  rw [Int16.le_iff_toInt_le, Int16.toInt_ofNat_of_lt small]
  simp

theorem number_injective {first second : StreamId} (left : 0 ≤ first) (right : 0 ≤ second)
    (same : first.toNatClampNeg = second.toNatClampNeg) : first = second := by
  rw [← ofNat_number left, ← ofNat_number right, same]

theorem bitOf_cons (word : BitVec 64) (rest : List (BitVec 64)) (id : Nat) :
    bitOf (word :: rest) id =
      if id < wordSize then word.getLsbD id else bitOf rest (id - wordSize) := by
  by_cases first : id < wordSize
  · have quotient : id / wordSize = 0 := Nat.div_eq_of_lt first
    simp [bitOf, first, quotient, Nat.mod_eq_of_lt first]
  · have quotient : id / wordSize = (id - wordSize) / wordSize + 1 := by
      simp only [wordSize] at *
      omega
    have remainder : id % wordSize = (id - wordSize) % wordSize := by
      simp only [wordSize] at *
      omega
    simp [bitOf, first, quotient, remainder]

theorem bitOf_modify (words : List (BitVec 64)) (change : BitVec 64 → BitVec 64) (id tested : Nat)
    (stored : id / wordSize < words.length) :
    bitOf (words.modify (id / wordSize) change) tested =
      if tested / wordSize = id / wordSize then
        (change (words.getD (id / wordSize) 0)).getLsbD (tested % wordSize)
      else bitOf words tested := by
  by_cases same : tested / wordSize = id / wordSize
  · simp [bitOf, same, List.getD_eq_getElem?_getD, stored]
  · simp [bitOf, same, List.getD_eq_getElem?_getD, Ne.symm same]

theorem getLsbD_maskOf (id bit : Nat) (inside : bit < wordSize) :
    (maskOf id).getLsbD bit = decide (bit = id % wordSize) := by
  have bounded : id % wordSize < wordSize := Nat.mod_lt _ (by decide)
  simp only [wordSize] at *
  simp only [maskOf, wordSize, BitVec.getLsbD_shiftLeft, BitVec.getLsbD_one]
  by_cases same : bit = id % 64
  · simp [same, bounded]
  · by_cases less : bit < id % 64
    · simp [less, same]
    · have apart : bit - id % 64 ≠ 0 := by omega
      simp [less, same, inside, apart]

theorem bitOf_set (words : List (BitVec 64)) (id tested : Nat)
    (stored : id / wordSize < words.length) :
    bitOf (words.modify (id / wordSize) (· ||| maskOf id)) tested =
      (bitOf words tested || decide (tested = id)) := by
  rw [bitOf_modify words _ id tested stored]
  have inside : tested % wordSize < wordSize := Nat.mod_lt _ (by decide)
  by_cases same : tested / wordSize = id / wordSize
  · have equal : (tested % wordSize = id % wordSize) = (tested = id) := by
      simp only [wordSize] at *
      apply propext
      omega
    simp [bitOf, same, BitVec.getLsbD_or, getLsbD_maskOf id _ inside, equal]
  · have distinct : tested ≠ id := fun equal => same (by rw [equal])
    simp [same, distinct]

theorem bitOf_clear (words : List (BitVec 64)) (id tested : Nat)
    (stored : id / wordSize < words.length) :
    bitOf (words.modify (id / wordSize) (· &&& ~~~maskOf id)) tested =
      (bitOf words tested && decide (tested ≠ id)) := by
  rw [bitOf_modify words _ id tested stored]
  have inside : tested % wordSize < wordSize := Nat.mod_lt _ (by decide)
  by_cases same : tested / wordSize = id / wordSize
  · have equal : (tested % wordSize = id % wordSize) = (tested = id) := by
      simp only [wordSize] at *
      apply propext
      omega
    have small : tested % wordSize < 64 := inside
    simp only [same, if_true, bitOf, BitVec.getLsbD_and, BitVec.getLsbD_not, small, decide_true,
      Bool.true_and, getLsbD_maskOf id _ inside, equal, decide_not]
  · have distinct : tested ≠ id := fun equal => same (by rw [equal])
    simp [same, distinct]

theorem lowestClear?_some {word : BitVec 64} {bit : Nat} (found : lowestClear? word = some bit) :
    bit < wordSize ∧ word.getLsbD bit = false ∧ ∀ less < bit, word.getLsbD less = true := by
  rw [lowestClear?, List.find?_range_eq_some] at found
  obtain ⟨clear, member, below⟩ := found
  refine ⟨List.mem_range.1 member, by simpa using clear, ?_⟩
  intro less before
  simpa using below less before

theorem lowestClear?_none {word : BitVec 64} (absent : lowestClear? word = none) :
    ∀ bit < wordSize, word.getLsbD bit = true := by
  rw [lowestClear?, List.find?_range_eq_none] at absent
  intro bit inside
  simpa using absent bit inside

theorem lowestFree?_some {words : List (BitVec 64)} {base id : Nat}
    (found : lowestFree? base words = some id) :
    ∃ offset, id = base + offset ∧ offset / wordSize < words.length ∧
      bitOf words offset = false ∧ ∀ less < offset, bitOf words less = true := by
  -- Positions are relative to `base`, which grows by a word with each step.
  induction words generalizing base with
  | nil => simp [lowestFree?] at found
  | cons word rest ih =>
    cases first : lowestClear? word with
    | some bit =>
      obtain ⟨inside, clear, below⟩ := lowestClear?_some first
      simp only [lowestFree?, first, Option.some.injEq] at found
      refine ⟨bit, found.symm, ?_, ?_, ?_⟩
      · simp [Nat.div_eq_of_lt inside]
      · simp [bitOf_cons, inside, clear]
      · intro less before
        simp [bitOf_cons, lt_trans before inside, below less before]
    | none =>
      simp only [lowestFree?, first] at found
      obtain ⟨offset, same, stored, clear, below⟩ := ih found
      refine ⟨wordSize + offset, by omega, ?_, ?_, ?_⟩
      · simp only [wordSize, List.length_cons] at *
        omega
      · simp [bitOf_cons, clear]
      · intro less before
        by_cases inside : less < wordSize
        · simp [bitOf_cons, inside, lowestClear?_none first less inside]
        · simp [bitOf_cons, inside, below (less - wordSize) (by omega)]

theorem lowestFree?_none {words : List (BitVec 64)} {base : Nat}
    (absent : lowestFree? base words = none) :
    ∀ id, id / wordSize < words.length → bitOf words id = true := by
  induction words generalizing base with
  | nil => simp
  | cons word rest ih =>
    cases first : lowestClear? word with
    | some bit => simp [lowestFree?, first] at absent
    | none =>
      simp only [lowestFree?, first] at absent
      intro id stored
      by_cases inside : id < wordSize
      · simp [bitOf_cons, inside, lowestClear?_none first id inside]
      · simp only [bitOf_cons, inside, if_false]
        apply ih absent
        simp only [wordSize, List.length_cons] at *
        omega

theorem Valid.stored_id {ids : StreamIds} (valid : ids.Valid) {id : Nat}
    (inside : id < ids.capacity) : id / wordSize < ids.words.length := by
  rw [valid.stored]
  simp only [wordSize]
  omega

theorem ofCapacity_held (capacity : Nat) : (ofCapacity capacity).held = ∅ := by
  ext id
  simp only [mem_held, Finset.notMem_empty, iff_false, not_and]
  intro _
  simp only [bitOf, ofCapacity, List.getD_eq_getElem?_getD, List.getElem?_replicate]
  split <;> simp

theorem ofCapacity_valid (capacity : Nat) : (ofCapacity capacity).Valid where
  stored := by simp [ofCapacity]
  numbered := Nat.min_le_right _ _
  counted := by simp [ofCapacity_held]; rfl

theorem acquire?_some {ids taken : StreamIds} {stream : StreamId} (valid : ids.Valid)
    (acquired : ids.acquire? = some (stream, taken)) :
    ∃ id, stream = Int16.ofNat id ∧ id < ids.capacity ∧ id ∉ ids.held ∧
      (∀ less < id, less ∈ ids.held) ∧ taken.held = insert id ids.held ∧
      taken.capacity = ids.capacity ∧ taken.Valid := by
  unfold acquire? at acquired
  split at acquired
  · cases acquired
  next id lowest =>
    split at acquired
    next inside =>
      obtain ⟨offset, same, stored, clear, below⟩ := lowestFree?_some lowest
      obtain rfl : id = offset := by omega
      cases acquired
      have free : id ∉ ids.held := by
        rw [mem_held]
        rintro ⟨_, taken⟩
        exact absurd (clear.symm.trans taken) (by decide)
      -- Setting the bit of the id adds it to the set and leaves the others.
      have added : StreamIds.held { ids with
          words := ids.words.modify (id / wordSize) (· ||| maskOf id)
          inUse := ids.inUse + 1 } = insert id ids.held := by
        ext tested
        rw [Finset.mem_insert, mem_held, mem_held]
        have bit := bitOf_set ids.words id tested stored
        simp only [bit, Bool.or_eq_true, decide_eq_true_eq]
        constructor
        · rintro ⟨within, old | new⟩
          · exact .inr ⟨within, old⟩
          · exact .inl new
        · rintro (rfl | ⟨within, old⟩)
          · exact ⟨inside, .inr rfl⟩
          · exact ⟨within, .inl old⟩
      refine ⟨id, rfl, inside, free, ?_, added, rfl, ?_, valid.numbered, ?_⟩
      · intro less before
        exact (mem_held ids less).2 ⟨lt_trans before inside, below less before⟩
      · simpa using valid.stored
      · rw [added, Finset.card_insert_of_notMem free, ← valid.counted]
    next => cases acquired

theorem acquire?_none {ids : StreamIds} (valid : ids.Valid) (refused : ids.acquire? = none) :
    ids.held.card = ids.capacity := by
  have full : ids.held = Finset.range ids.capacity := by
    ext id
    rw [mem_held, Finset.mem_range, and_iff_left_iff_imp]
    intro inside
    unfold acquire? at refused
    split at refused
    next exhausted => exact lowestFree?_none exhausted id (valid.stored_id inside)
    next lowest found =>
      split at refused
      · cases refused
      next beyond =>
        -- The free bit is one of those at the end of the last word that stand for no id.
        obtain ⟨offset, same, _, _, below⟩ := lowestFree?_some found
        exact below id (by omega)
  rw [full, Finset.card_range]

theorem release?_eq_none_iff {ids : StreamIds} (stream : StreamId) :
    ids.release? stream = none ↔ ¬ids.Holds stream := by
  have refused : (stream < 0 ∨ ids.capacity ≤ stream.toNatClampNeg ∨
      (!ids.isHeld stream.toNatClampNeg) = true) ↔ ¬ids.Holds stream := by
    simp only [Holds, mem_held, isHeld, ← Int16.not_le, ← Nat.not_lt, Bool.not_eq_true',
      ← Bool.not_eq_true, bitOf]
    tauto
  rw [← refused]
  simp only [release?, ite_eq_left_iff, reduceCtorEq, imp_false, not_not]
  rfl

theorem release?_some {ids freed : StreamIds} {stream : StreamId} (valid : ids.Valid)
    (released : ids.release? stream = some freed) :
    ids.Holds stream ∧ freed.held = ids.held.erase stream.toNatClampNeg ∧
      freed.capacity = ids.capacity ∧ freed.Valid := by
  have present : ids.Holds stream := by
    by_contra absent
    simp [(release?_eq_none_iff stream).2 absent] at released
  have member := present.2
  unfold release? at released
  simp only at released
  split at released
  · cases released
  cases released
  have stored := valid.stored_id ((mem_held ids _).1 member).1
  have removed : StreamIds.held { ids with
      words := ids.words.modify (stream.toNatClampNeg / wordSize)
        (· &&& ~~~maskOf stream.toNatClampNeg)
      inUse := ids.inUse - 1 } = ids.held.erase stream.toNatClampNeg := by
    ext tested
    rw [Finset.mem_erase, mem_held, mem_held]
    have bit := bitOf_clear ids.words stream.toNatClampNeg tested stored
    simp only [bit, Bool.and_eq_true, decide_eq_true_eq]
    tauto
  refine ⟨present, removed, rfl, ?_, valid.numbered, ?_⟩
  · simpa using valid.stored
  · exact (congrArg (· - 1) valid.counted).trans
      ((congrArg Finset.card removed).trans (Finset.card_erase_of_mem member)).symm

instance (ids : StreamIds) (stream : StreamId) : Decidable (ids.Holds stream) :=
  inferInstanceAs (Decidable (_ ∧ _))

theorem acquire?_holds {ids taken : StreamIds} {stream : StreamId} (valid : ids.Valid)
    (acquired : ids.acquire? = some (stream, taken)) :
    ¬ids.Holds stream ∧ (∀ tested, taken.Holds tested ↔ tested = stream ∨ ids.Holds tested) ∧
      taken.held.card = ids.held.card + 1 ∧ taken.capacity = ids.capacity ∧ taken.Valid := by
  obtain ⟨id, rfl, inside, free, _, added, capacity, stillValid⟩ := acquire?_some valid acquired
  have small : id < maxStreamsLimit := lt_of_lt_of_le inside valid.numbered
  have number := number_ofNat small
  refine ⟨?_, ?_, ?_, capacity, stillValid⟩
  · rintro ⟨_, member⟩
    exact free (number ▸ member)
  · intro tested
    simp only [Holds, added, Finset.mem_insert]
    constructor
    · rintro ⟨nonnegative, same | member⟩
      · exact .inl (number_injective nonnegative (ofNat_nonnegative small) (same.trans number.symm))
      · exact .inr ⟨nonnegative, member⟩
    · rintro (rfl | ⟨nonnegative, member⟩)
      · exact ⟨ofNat_nonnegative small, .inl number⟩
      · exact ⟨nonnegative, .inr member⟩
  · rw [added, Finset.card_insert_of_notMem free]

theorem release?_holds {ids freed : StreamIds} {stream : StreamId} (valid : ids.Valid)
    (released : ids.release? stream = some freed) :
    (∀ tested, freed.Holds tested ↔ tested ≠ stream ∧ ids.Holds tested) ∧
      freed.held.card + 1 = ids.held.card ∧ freed.capacity = ids.capacity ∧ freed.Valid := by
  obtain ⟨present, removed, capacity, stillValid⟩ := release?_some valid released
  refine ⟨?_, ?_, capacity, stillValid⟩
  · intro tested
    simp only [Holds, removed, Finset.mem_erase]
    constructor
    · rintro ⟨nonnegative, different, member⟩
      exact ⟨fun same => different (by rw [same]), nonnegative, member⟩
    · rintro ⟨different, nonnegative, member⟩
      exact ⟨nonnegative, fun same => different (number_injective nonnegative present.1 same),
        member⟩
  · rw [removed, Finset.card_erase_add_one present.2]

end ClusterDriver.StreamIds
