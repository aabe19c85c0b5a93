import ClusterDriver.Proofs.StreamIds
import Mathlib.Order.Bounds.Basic

set_option autoImplicit false

namespace ClusterDriver.StreamIds

inductive Call where
  | acquire
  | release (stream : StreamId)
deriving DecidableEq, Repr

inductive Answer where
  | acquired (stream? : Option StreamId)
  | released (found : Bool)
deriving DecidableEq, Repr

def serve (ids : StreamIds) : Call → Answer × StreamIds
  | .acquire =>
      match ids.acquire? with
      | some (stream, taken) => (.acquired (some stream), taken)
      | none => (.acquired none, ids)
  | .release stream =>
      match ids.release? stream with
      | some freed => (.released true, freed)
      | none => (.released false, ids)

def serveAll (ids : StreamIds) (calls : List Call) : StreamIds :=
  calls.foldl (fun served call => (served.serve call).2) ids

/-- How a set of numbers below a limit answers a call, and the set that it is then. -/
inductive Answers (limit : Nat) (held : Finset Nat) : Call → Answer → Finset Nat → Prop
  | taken {id : Nat} {stream : StreamId} (least : IsLeast {free | free ∉ held} id)
      (inside : id < limit) (numbered : stream.toInt = id) :
      Answers limit held .acquire (.acquired (some stream)) (insert id held)
  | full (all : held = Finset.range limit) : Answers limit held .acquire (.acquired none) held
  | freed {id : Nat} {stream : StreamId} (used : id ∈ held) (numbered : stream.toInt = id) :
      Answers limit held (.release stream) (.released true) (held.erase id)
  | unknown {stream : StreamId} (unused : ∀ id ∈ held, stream.toInt ≠ id) :
      Answers limit held (.release stream) (.released false) held

/-- Every call is answered as by the set that the calls before it have left, and the counter is the
size of the set before and after each of them. -/
inductive Follows (limit : Nat) : Finset Nat → StreamIds → List Call → Prop
  | done {held : Finset Nat} {ids : StreamIds} (inside : held ⊆ Finset.range limit)
      (counted : ids.inUse = held.card) : Follows limit held ids []
  | call {held next : Finset Nat} {ids : StreamIds} {call : Call} {rest : List Call}
      (inside : held ⊆ Finset.range limit) (counted : ids.inUse = held.card)
      (answers : Answers limit held call (ids.serve call).1 next)
      (follows : Follows limit next (ids.serve call).2 rest) : Follows limit held ids (call :: rest)

variable {ids : StreamIds}

theorem held_subset (ids : StreamIds) : ids.held ⊆ Finset.range ids.capacity :=
  Finset.filter_subset _ _

theorem holds_iff {stream : StreamId} : ids.Holds stream ↔ ∃ id ∈ ids.held, stream.toInt = id := by
  constructor
  · intro ⟨nonnegative, member⟩
    have positive : 0 ≤ stream.toInt := Int16.le_iff_toInt_le.1 nonnegative
    exact ⟨_, member, (Int.toNat_of_nonneg positive).symm⟩
  · intro ⟨id, member, numbered⟩
    have same : stream.toNatClampNeg = id := by
      rw [Int16.toNatClampNeg, numbered, Int.toNat_natCast]
    exact ⟨Int16.le_iff_toInt_le.2 (numbered ▸ Int.natCast_nonneg id), same ▸ member⟩

theorem acquire_answers (valid : ids.Valid) :
    Answers ids.capacity ids.held .acquire (ids.serve .acquire).1 (ids.serve .acquire).2.held := by
  cases acquired : ids.acquire? with
  | none =>
    have full : ids.held = Finset.range ids.capacity := by
      apply Finset.eq_of_subset_of_card_le ids.held_subset
      rw [Finset.card_range, acquire?_none valid acquired]
    simpa [serve, acquired] using Answers.full full
  | some given =>
    obtain ⟨stream, taken⟩ := given
    obtain ⟨id, rfl, inside, free, below, added, -, -⟩ := acquire?_some valid acquired
    have least : IsLeast {free | free ∉ ids.held} id := by
      refine ⟨free, ?_⟩
      intro other unused
      apply Nat.le_of_not_lt
      exact fun less => unused (below other less)
    have numbered : (Int16.ofNat id).toInt = id :=
      Int16.toInt_ofNat_of_lt (lt_of_lt_of_le inside valid.numbered)
    simpa [serve, acquired, added] using Answers.taken least inside numbered

theorem release_answers (valid : ids.Valid) (stream : StreamId) :
    Answers ids.capacity ids.held (.release stream) (ids.serve (.release stream)).1
      (ids.serve (.release stream)).2.held := by
  cases released : ids.release? stream with
  | none =>
    have unused : ∀ id ∈ ids.held, stream.toInt ≠ id := by
      intro id member numbered
      exact (release?_eq_none_iff stream).1 released (holds_iff.2 ⟨id, member, numbered⟩)
    simpa [serve, released] using Answers.unknown unused
  | some freed =>
    obtain ⟨holds, removed, -, -⟩ := release?_some valid released
    obtain ⟨id, used, numbered⟩ := holds_iff.1 holds
    have same : stream.toNatClampNeg = id := by
      rw [Int16.toNatClampNeg, numbered, Int.toNat_natCast]
    rw [same] at removed
    simpa [serve, released, removed] using Answers.freed used numbered

theorem serve_answers (valid : ids.Valid) (call : Call) :
    Answers ids.capacity ids.held call (ids.serve call).1 (ids.serve call).2.held := by
  cases call with
  | acquire => exact acquire_answers valid
  | release stream => exact release_answers valid stream

theorem serve_valid (valid : ids.Valid) (call : Call) :
    (ids.serve call).2.Valid ∧ (ids.serve call).2.capacity = ids.capacity := by
  cases call with
  | acquire =>
    cases acquired : ids.acquire? with
    | none => simpa [serve, acquired] using valid
    | some given =>
      obtain ⟨-, -, -, -, -, -, capacity, stillValid⟩ := acquire?_some valid acquired
      simpa [serve, acquired] using ⟨stillValid, capacity⟩
  | release stream =>
    cases released : ids.release? stream with
    | none => simpa [serve, released] using valid
    | some freed =>
      obtain ⟨-, -, capacity, stillValid⟩ := release?_some valid released
      simpa [serve, released] using ⟨stillValid, capacity⟩

theorem serveAll_valid (valid : ids.Valid) (calls : List Call) : (ids.serveAll calls).Valid := by
  induction calls generalizing ids with
  | nil => exact valid
  | cons call rest ih => exact ih (serve_valid valid call).1

theorem follows_held (valid : ids.Valid) (calls : List Call) :
    Follows ids.capacity ids.held ids calls := by
  induction calls generalizing ids with
  | nil => exact .done ids.held_subset valid.counted
  | cons call rest ih =>
    obtain ⟨stillValid, capacity⟩ := serve_valid valid call
    have follows := ih stillValid
    rw [capacity] at follows
    exact .call ids.held_subset valid.counted (serve_answers valid call) follows

theorem inUse_pos (valid : ids.Valid) {stream : StreamId} (holds : ids.Holds stream) :
    0 < ids.inUse := by
  rw [valid.counted]
  exact Finset.card_pos.2 ⟨_, holds.2⟩

/-- Any calls are answered as by a set of numbers below the capacity that is empty at first, and the
counter never has to go below zero. -/
theorem calls_follow_set (capacity : Nat) (calls : List Call) :
    Follows (min capacity maxStreamsLimit) ∅ (ofCapacity capacity) calls ∧
      ∀ stream freed, ((ofCapacity capacity).serveAll calls).release? stream = some freed →
        0 < ((ofCapacity capacity).serveAll calls).inUse := by
  have valid := ofCapacity_valid capacity
  constructor
  · have follows := follows_held valid calls
    rwa [ofCapacity_held] at follows
  · intro stream freed released
    have served := serveAll_valid valid calls
    exact inUse_pos served (release?_some served released).1

def crowded : List Call :=
  List.replicate 66 .acquire ++ [.release (-1), .release 65, .release 64, .release 3, .release 3]

theorem crowded_calls_follow_set :
    let ids := (ofCapacity 65).serveAll crowded
    (ofCapacity 65).serveAll (crowded.take 65) = ⟨[BitVec.allOnes 64, 1], 65, 65⟩ ∧
      Follows 65 ∅ (ofCapacity 65) crowded ∧ (ids.serve .acquire).1 = .acquired (some 3) ∧
      (ids.release? 5).isSome ∧ 0 < ids.inUse := by
  intro ids
  obtain ⟨follows, counted⟩ := calls_follow_set 65 crowded
  have known : (ids.release? 5).isSome := by decide +kernel
  obtain ⟨freed, released⟩ := Option.isSome_iff_exists.1 known
  exact ⟨by decide +kernel, follows, by decide +kernel, known, counted 5 freed released⟩

end ClusterDriver.StreamIds
