import ClusterDriver.Proofs.Cluster.Plans
import Mathlib.Data.Finset.Card
import Mathlib.Data.List.Permutation

set_option autoImplicit false

namespace ClusterDriver

theorem SocketAddress.rank_inj {first second : SocketAddress} :
    first.rank = second.rank ↔ first = second := by
  refine ⟨fun same => ?_, congrArg rank⟩
  -- Each part is below the factor of the next one, and all IPv4 ranks are below the IPv6 ones.
  cases first with
  | v4 ip portNumber =>
    have small := ip.toNat_lt
    have smallPort := portNumber.toNat_lt
    cases second with
    | v4 other otherPort =>
      have := otherPort.toNat_lt
      simp only [rank, UInt16.size] at same
      rw [UInt32.toNat_inj.1 (by omega : ip.toNat = other.toNat),
        UInt16.toNat_inj.1 (by omega : portNumber.toNat = otherPort.toNat)]
    | v6 other scope otherPort =>
      simp only [rank, UInt16.size, UInt32.size] at same
      omega
  | v6 ip scope portNumber =>
    have smallScope := scope.toNat_lt
    have smallPort := portNumber.toNat_lt
    cases second with
    | v4 other otherPort =>
      have := other.toNat_lt
      have := otherPort.toNat_lt
      simp only [rank, UInt16.size, UInt32.size] at same
      omega
    | v6 other otherScope otherPort =>
      have := otherScope.toNat_lt
      have := otherPort.toNat_lt
      simp only [rank, UInt16.size, UInt32.size] at same
      rw [BitVec.toNat_inj.1 (by omega : ip.toNat = other.toNat),
        UInt32.toNat_inj.1 (by omega : scope.toNat = otherScope.toNat),
        UInt16.toNat_inj.1 (by omega : portNumber.toNat = otherPort.toNat)]

section Firsts

variable {α : Type} {values : List α} {value last : α} {step : Nat}

def ComesFirst (values : List α) (step : Nat) (value : α) : Prop :=
  values[step]? = some value ∧ ∀ earlier < step, values[earlier]? ≠ some value

theorem comesFirst_concat :
    ComesFirst (values ++ [last]) step value ↔ ComesFirst values step value ∨
      step = values.length ∧ value = last ∧ last ∉ values := by
  by_cases inside : step < values.length
  · have before (earlier) (order : earlier < step) :
        (values ++ [last])[earlier]? = values[earlier]? :=
      List.getElem?_append_left (by omega)
    simp only [ComesFirst, List.getElem?_append_left inside]
    constructor
    · rintro ⟨here, fresh⟩
      exact .inl ⟨here, fun earlier order => before earlier order ▸ fresh earlier order⟩
    · rintro (⟨here, fresh⟩ | ⟨rfl, _⟩)
      · exact ⟨here, fun earlier order => (before earlier order).symm ▸ fresh earlier order⟩
      · omega
  · have never : ¬ComesFirst values step value := by
      rintro ⟨here, _⟩
      rw [List.getElem?_eq_none (by omega)] at here
      cases here
    rw [or_iff_right never]
    constructor
    · rintro ⟨here, fresh⟩
      have bound : step < (values ++ [last]).length := (List.getElem?_eq_some_iff.1 here).1
      rw [List.length_append, List.length_singleton] at bound
      obtain rfl : step = values.length := by omega
      rw [List.getElem?_concat_length, Option.some.injEq] at here
      refine ⟨rfl, here.symm, fun member => ?_⟩
      obtain ⟨earlier, order, found⟩ := List.mem_iff_getElem.1 member
      refine fresh earlier order ?_
      rw [List.getElem?_append_left order, List.getElem?_eq_getElem order, found, here]
    · rintro ⟨rfl, rfl, new⟩
      refine ⟨List.getElem?_concat_length, fun earlier order found => new ?_⟩
      rw [List.getElem?_append_left order] at found
      exact List.mem_of_getElem? found

theorem exists_firsts [DecidableEq α] (values : List α) :
    ∃ steps : List Nat, steps.Pairwise (· < ·) ∧
      (∀ step, step ∈ steps ↔ ∃ value, ComesFirst values step value) ∧
      List.Forall₂ (ComesFirst values) steps values.eraseDups := by
  -- From the end: a last value is met for the first time unless it is among those before it, and
  -- it does not change when these are met.
  induction values using List.reverseRecOn with
  | nil => exact ⟨[], List.Pairwise.nil, by simp [ComesFirst], .nil⟩
  | append_singleton values last ih =>
    obtain ⟨steps, increasing, all, matched⟩ := ih
    have kept : List.Forall₂ (ComesFirst (values ++ [last])) steps values.eraseDups :=
      matched.imp fun _ _ first => comesFirst_concat.2 (.inl first)
    by_cases old : last ∈ values
    · refine ⟨steps, increasing, fun step => ?_, ?_⟩
      · simp [all, comesFirst_concat, old]
      · simpa [List.eraseDups_append, List.removeAll, old] using kept
    · have bounded (step) (member : step ∈ steps) : step < values.length := by
        obtain ⟨value, here, _⟩ := (all step).1 member
        exact (List.getElem?_eq_some_iff.1 here).1
      refine ⟨steps ++ [values.length], ?_, fun step => ?_, ?_⟩
      · refine List.pairwise_append.2 ⟨increasing, List.pairwise_singleton .., ?_⟩
        intro step member other single
        rw [List.mem_singleton.1 single]
        exact bounded step member
      · simp [all, comesFirst_concat, old, exists_or]
      · have new : (values ++ [last]).eraseDups = values.eraseDups ++ [last] := by
          simp [List.eraseDups_append, List.eraseDups_cons, List.removeAll, old]
        rw [new]
        exact List.rel_append kept (.cons (comesFirst_concat.2 (.inr ⟨rfl, rfl, old⟩)) .nil)

end Firsts

namespace RingEntry

variable {first second third : RingEntry}

theorem precedes_iff :
    first.precedes second = true ↔ first.token.toInt < second.token.toInt ∨
      first.token.toInt = second.token.toInt ∧ first.owner.rank ≤ second.owner.rank := by
  simp [precedes, Int64.lt_iff_toInt_lt, Int64.toInt_inj]

theorem precedes_trans (before : first.precedes second = true)
    (after : second.precedes third = true) : first.precedes third = true := by
  rw [precedes_iff] at *
  omega

theorem precedes_total (first second : RingEntry) :
    (first.precedes second || second.precedes first) = true := by
  rw [Bool.or_eq_true, precedes_iff, precedes_iff]
  omega

theorem sorted_mergeSort (entries : List RingEntry) :
    (entries.mergeSort precedes).Pairwise fun first second => first.precedes second = true := by
  apply List.pairwise_mergeSort
  · intro first second third
    exact precedes_trans
  · exact precedes_total

end RingEntry

namespace TokenRing

/-- Of the entries with a token, the one with the lowest owner is kept. -/
structure Thins (entries kept : List RingEntry) : Prop where
  increasing : kept.Pairwise (·.token < ·.token)
  known : kept ⊆ entries
  covers : ∀ entry ∈ entries, ∃ chosen ∈ kept, chosen.token = entry.token
  lowest : ∀ chosen ∈ kept, ∀ entry ∈ entries, entry.token = chosen.token →
    chosen.owner.rank ≤ entry.owner.rank

theorem place_eq {entry : RingEntry} {kept : List RingEntry}
    (increasing : kept.Pairwise (·.token < ·.token))
    (first : ∀ other ∈ kept, entry.token.toInt ≤ other.token.toInt) :
    place entry kept = entry :: kept.filter (·.token ≠ entry.token) := by
  cases kept with
  | nil => rfl
  | cons head rest =>
    obtain ⟨behind, _⟩ := List.pairwise_cons.1 increasing
    have others : rest.filter (·.token ≠ entry.token) = rest := by
      apply List.filter_eq_self.2
      intro other member
      have order := Int64.lt_iff_toInt_lt.1 (behind other member)
      have start := first head List.mem_cons_self
      rw [decide_eq_true_iff, ne_eq, ← Int64.toInt_inj]
      omega
    by_cases same : head.token = entry.token
    · rw [place, if_pos same, List.filter_cons_of_neg (by simpa using same), others]
    · rw [place, if_neg same, List.filter_cons_of_pos (by simpa using same), others]

theorem Thins.place {entry : RingEntry} {entries kept : List RingEntry} (thins : Thins entries kept)
    (first : ∀ other ∈ entries, entry.precedes other = true) :
    Thins (entry :: entries) (place entry kept) := by
  have order (other) (member : other ∈ entries) := RingEntry.precedes_iff.1 (first other member)
  rw [place_eq thins.increasing fun other member => by
    have := order other (thins.known member)
    omega]
  refine ⟨List.pairwise_cons.2 ⟨fun other member => ?_, thins.increasing.filter _⟩, ?_, ?_, ?_⟩
  · obtain ⟨old, different⟩ := List.mem_filter.1 member
    rw [decide_eq_true_iff, ne_eq, ← Int64.toInt_inj] at different
    have := order other (thins.known old)
    rw [Int64.lt_iff_toInt_lt]
    omega
  · exact List.cons_subset_cons _ fun other member => thins.known (List.mem_filter.1 member).1
  · intro other member
    by_cases same : other.token = entry.token
    · exact ⟨entry, List.mem_cons_self, same.symm⟩
    · have older := (List.mem_cons.1 member).resolve_left fun same' => same (same' ▸ rfl)
      obtain ⟨chosen, found, alike⟩ := thins.covers other older
      refine ⟨chosen, List.mem_cons_of_mem _ (List.mem_filter.2 ⟨found, ?_⟩), alike⟩
      simpa [alike] using same
  · intro chosen member other known same
    rcases List.mem_cons.1 member with rfl | later
    · rcases List.mem_cons.1 known with rfl | older
      · exact Nat.le_refl _
      · have := order other older
        rw [same] at this
        omega
    · obtain ⟨old, different⟩ := List.mem_filter.1 later
      have older := (List.mem_cons.1 known).resolve_left fun here => by
        simp [← same, here] at different
      exact thins.lowest chosen old other older same

theorem thins_keepFirst {entries : List RingEntry}
    (sorted : entries.Pairwise fun first second => first.precedes second = true) :
    Thins entries (keepFirst entries) := by
  induction entries with
  | nil => exact ⟨List.Pairwise.nil, List.Subset.refl _, nofun, nofun⟩
  | cons entry rest ih =>
    -- All later entries have this token or a greater one, and with this token no lower owner.
    obtain ⟨first, later⟩ := List.pairwise_cons.1 sorted
    exact (ih later).place first

theorem eq_of_increasing {first second : List RingEntry}
    (firstIncreasing : first.Pairwise (·.token < ·.token))
    (secondIncreasing : second.Pairwise (·.token < ·.token))
    (same : ∀ entry, entry ∈ first ↔ entry ∈ second) : first = second := by
  have different {entries : List RingEntry} (increasing : entries.Pairwise (·.token < ·.token)) :
      entries.Nodup := by
    refine increasing.imp fun {one other} order alike => ?_
    rw [alike, Int64.lt_iff_toInt_lt] at order
    omega
  refine List.Perm.eq_of_pairwise (fun one other _ _ order back => ?_) firstIncreasing
    secondIncreasing ((List.perm_ext_iff_of_nodup (different firstIncreasing)
      (different secondIncreasing)).2 same)
  rw [Int64.lt_iff_toInt_lt] at order back
  omega

section Nodes

variable {nodes : List (SocketAddress × List Int64)} {ring : TokenRing} {factor : Nat}
  {owner : SocketAddress} {token : Int64}

def Owns (nodes : List (SocketAddress × List Int64)) (owner : SocketAddress) (token : Int64) :
    Prop :=
  ∃ tokens, (owner, tokens) ∈ nodes ∧ token ∈ tokens

/-- Each token of a node stands in the ring once, with the lowest address that has it. -/
structure Maps (ring : TokenRing) (nodes : List (SocketAddress × List Int64)) : Prop where
  increasing : ring.entries.Pairwise (·.token < ·.token)
  covers : ∀ owner token, Owns nodes owner token → ∃ entry ∈ ring.entries, entry.token = token
  lowest : ∀ entry ∈ ring.entries, Owns nodes entry.owner entry.token ∧
    ∀ other, Owns nodes other entry.token → other ≠ entry.owner → entry.owner.rank < other.rank

theorem mem_placed {entry : RingEntry} :
    entry ∈ nodes.flatMap (fun (owner, tokens) => tokens.map (⟨·, owner⟩)) ↔
      Owns nodes entry.owner entry.token := by
  simp only [List.mem_flatMap, List.mem_map, Owns]
  constructor
  · rintro ⟨⟨owner, tokens⟩, known, token, member, rfl⟩
    exact ⟨tokens, known, member⟩
  · rintro ⟨tokens, known, member⟩
    exact ⟨_, known, _, member, rfl⟩

theorem maps_ofNodes (nodes : List (SocketAddress × List Int64)) (factor : Nat) :
    (ofNodes nodes factor).Maps nodes := by
  have thins := thins_keepFirst (RingEntry.sorted_mergeSort
    (nodes.flatMap fun (owner, tokens) => tokens.map (⟨·, owner⟩)))
  have placed {entry : RingEntry} :
      entry ∈ (nodes.flatMap fun (owner, tokens) => tokens.map (⟨·, owner⟩)).mergeSort
        RingEntry.precedes ↔ Owns nodes entry.owner entry.token := by
    rw [(List.mergeSort_perm ..).mem_iff, mem_placed]
  refine ⟨thins.increasing, fun owner token owns => ?_, fun entry member => ⟨?_, ?_⟩⟩
  · exact thins.covers ⟨token, owner⟩ (placed.2 owns)
  · exact placed.1 (thins.known member)
  · intro other owns different
    have order := thins.lowest entry member ⟨entry.token, other⟩ (placed.2 owns) rfl
    refine Nat.lt_of_le_of_ne order fun same => different ?_
    exact (SocketAddress.rank_inj.1 same).symm

theorem Maps.mem_entries (maps : ring.Maps nodes) {entry : RingEntry} :
    entry ∈ ring.entries ↔ Owns nodes entry.owner entry.token ∧
      ∀ other, Owns nodes other entry.token → entry.owner.rank ≤ other.rank := by
  constructor
  · intro member
    obtain ⟨owns, lowest⟩ := maps.lowest entry member
    refine ⟨owns, fun other shares => ?_⟩
    by_cases same : other = entry.owner
    · exact same ▸ Nat.le_refl _
    · exact Nat.le_of_lt (lowest other shares same)
  · rintro ⟨owns, lowest⟩
    obtain ⟨chosen, member, alike⟩ := maps.covers _ _ owns
    obtain ⟨chosenOwns, chosenLowest⟩ := maps.lowest chosen member
    have same : entry.owner = chosen.owner := by
      by_contra different
      have := chosenLowest _ (alike ▸ owns) different
      have := lowest _ (alike ▸ chosenOwns)
      omega
    obtain ⟨token, owner⟩ := entry
    obtain rfl : chosen.token = token := alike
    obtain rfl : owner = chosen.owner := same
    exact member

theorem entries_eq_nil_iff (maps : ring.Maps nodes) :
    ring.entries = [] ↔ ∀ owner token, ¬Owns nodes owner token := by
  constructor
  · intro empty owner token owns
    obtain ⟨entry, member, _⟩ := maps.covers owner token owns
    rw [empty] at member
    cases member
  · intro none
    exact List.eq_nil_iff_forall_not_mem.2 fun entry member =>
      none _ _ (maps.lowest entry member).1

end Nodes

structure StartsAt (ring : TokenRing) (token : Int64) (start : Nat) : Prop where
  within : start ≤ ring.entries.length
  onward : ∀ place (inside : place < ring.entries.length),
    token ≤ ring.entries[place].token ↔ start ≤ place

/-- The owner met after so many steps. The first entry follows on the last one. -/
def ownerAt? (ring : TokenRing) (start step : Nat) : Option SocketAddress :=
  ring.entries[(start + step) % ring.entries.length]?.map (·.owner)

/-- Before the start is reached again, this owner is met after so many steps, and not before. -/
structure MeetsFirst (ring : TokenRing) (start step : Nat) (owner : SocketAddress) : Prop where
  once : step < ring.entries.length
  here : ring.ownerAt? start step = some owner
  fresh : ∀ earlier < step, ring.ownerAt? start earlier ≠ some owner

def Walks (ring : TokenRing) (start count : Nat) (owners : List SocketAddress) : Prop :=
  ∃ steps : List Nat, steps.Pairwise (· < ·) ∧
    (∀ step, step ∈ steps ↔ ∃ owner, ring.MeetsFirst start step owner) ∧
    List.Forall₂ (ring.MeetsFirst start) (steps.take count) owners

section Walk

variable {ring : TokenRing} {token : Int64}

theorem split_at_token {entries : List RingEntry}
    (increasing : entries.Pairwise (·.token < ·.token)) (token : Int64) :
    entries.takeWhile (·.token < token) = entries.filter (·.token < token) ∧
      entries.dropWhile (·.token < token) = entries.filter (token ≤ ·.token) := by
  induction entries with
  | nil => exact ⟨rfl, rfl⟩
  | cons entry rest ih =>
    obtain ⟨behind, increasing⟩ := List.pairwise_cons.1 increasing
    obtain ⟨front, back⟩ := ih increasing
    by_cases below : entry.token < token
    · simp [below, Int64.not_le.2 below, front, back]
    · have above (other) (member : other ∈ rest) : token ≤ other.token := by
        have order := behind other member
        simp only [Int64.lt_iff_toInt_lt, Int64.le_iff_toInt_le] at *
        omega
      have empty : rest.filter (·.token < token) = [] := by
        simpa [List.filter_eq_nil_iff] using above
      have whole : rest.filter (token ≤ ·.token) = rest := by
        simpa [List.filter_eq_self] using above
      simp [below, Int64.not_lt.1 below, empty, whole]

theorem exists_start (increasing : ring.entries.Pairwise (·.token < ·.token)) (token : Int64) :
    ∃ start, ring.StartsAt token start ∧
      ring.clockwise token = (ring.entries.rotate start).map (·.owner) := by
  obtain ⟨front, back⟩ := split_at_token increasing token
  have split := List.takeWhile_append_dropWhile (p := (·.token < token)) (l := ring.entries)
  refine ⟨(ring.entries.takeWhile (·.token < token)).length, ⟨?_, fun place inside => ?_⟩, ?_⟩
  · exact (List.takeWhile_prefix _).length_le
  · have here : (ring.entries.takeWhile (·.token < token) ++
        ring.entries.dropWhile (·.token < token))[place]? = some ring.entries[place] := by
      simp only [split, List.getElem?_eq_getElem inside]
    by_cases order : place < (ring.entries.takeWhile (·.token < token)).length
    · rw [List.getElem?_append_left order, front] at here
      have below := (List.mem_filter.1 (List.mem_of_getElem? here)).2
      rw [decide_eq_true_eq] at below
      simp only [Int64.not_le.2 below, false_iff, Nat.not_le, order]
    · rw [List.getElem?_append_right (Nat.le_of_not_lt order), back] at here
      have above := (List.mem_filter.1 (List.mem_of_getElem? here)).2
      rw [decide_eq_true_eq] at above
      simp only [above, Nat.le_of_not_lt order]
  · rw [clockwise, ← List.rotate_append_length_eq, split]

theorem meetsFirst_iff {start step : Nat} {owner : SocketAddress}
    (walk : ring.clockwise token = (ring.entries.rotate start).map (·.owner)) :
    ring.MeetsFirst start step owner ↔ ComesFirst (ring.clockwise token) step owner := by
  have length : (ring.clockwise token).length = ring.entries.length := by
    rw [walk, List.length_map, List.length_rotate]
  have met (step) (once : step < ring.entries.length) :
      (ring.clockwise token)[step]? = ring.ownerAt? start step := by
    rw [walk, List.getElem?_map, List.getElem?_rotate once, ownerAt?, Nat.add_comm]
  constructor
  · rintro ⟨once, here, fresh⟩
    refine ⟨(met step once).trans here, fun earlier order => ?_⟩
    rw [met earlier (by omega)]
    exact fresh earlier order
  · rintro ⟨here, fresh⟩
    have once : step < ring.entries.length := by
      rw [← length]
      exact (List.getElem?_eq_some_iff.1 here).1
    refine ⟨once, met step once ▸ here, fun earlier order => ?_⟩
    rw [← met earlier (by omega)]
    exact fresh earlier order

theorem exists_walk (increasing : ring.entries.Pairwise (·.token < ·.token)) (token : Int64) :
    ∃ start, ring.StartsAt token start ∧
      ring.Walks start ring.replicationFactor (ring.replicas token) := by
  obtain ⟨start, starts, walk⟩ := exists_start increasing token
  obtain ⟨steps, ordered, all, matched⟩ := exists_firsts (ring.clockwise token)
  refine ⟨start, starts, steps, ordered, fun step => ?_, ?_⟩
  · simp only [all, meetsFirst_iff walk]
  · refine (List.forall₂_take _ matched).imp fun step owner => ?_
    exact (meetsFirst_iff walk).2

theorem length_replicas (ring : TokenRing) (token : Int64) :
    (ring.replicas token).length =
      min ring.replicationFactor (ring.entries.map (·.owner)).toFinset.card := by
  have owners : (ring.clockwise token).eraseDups.toFinset =
      (ring.entries.map (·.owner)).toFinset := by
    have split := List.takeWhile_append_dropWhile (p := (·.token < token)) (l := ring.entries)
    apply Finset.ext
    intro owner
    rw [List.mem_toFinset, List.mem_eraseDups, List.mem_toFinset, ← split, clockwise,
      List.map_append, List.map_append, List.mem_append, List.mem_append, or_comm]
  rw [replicas, List.length_take, ← owners, List.toFinset_card_of_nodup (nodup_eraseDups _)]

theorem replicas?_eq_some_iff {replicas : List SocketAddress} :
    ring.replicas? token = some replicas ↔
      (ring.entries = [] ∨ ring.replicationFactor ≤ maxReserved) ∧
        ring.replicas token = replicas := by
  simp [replicas?, canReserve, isEmpty]

end Walk

section Replicas

variable {nodes : List (SocketAddress × List Int64)} {factor : Nat} {token : Int64}

theorem replicas?_ofNodes_eq_none_iff :
    (ofNodes nodes factor).replicas? token = none ↔
      (∃ owner token, Owns nodes owner token) ∧ maxReserved < factor := by
  have owned : (∃ owner token, Owns nodes owner token) ↔ (ofNodes nodes factor).entries ≠ [] := by
    rw [ne_eq, entries_eq_nil_iff (maps_ofNodes nodes factor)]
    simp
  have limit : maxReserved < (ofNodes nodes factor).replicationFactor ↔ maxReserved < factor := by
    have : 1 ≤ maxReserved := by decide
    show maxReserved < max factor 1 ↔ _
    omega
  rw [owned, ← limit]
  simp [replicas?, canReserve, isEmpty]

/-- The ring holds each token of a node once, with the lowest address that has it, in increasing
order. Unless the factor is immense, the replicas of a token are the owners that a walk from the
first entry at or after the token meets for the first time, and a larger factor adds others at the
end. -/
theorem replicas_walk (nodes : List (SocketAddress × List Int64)) (factor : Nat) (token : Int64) :
    let ring := ofNodes nodes factor
    ring.Maps nodes ∧
      (ring.replicas? token = none ↔
        (∃ owner token, Owns nodes owner token) ∧ maxReserved < factor) ∧
      ∀ replicas, ring.replicas? token = some replicas →
        replicas.Nodup ∧
        replicas.length = min (max factor 1) (ring.entries.map (·.owner)).toFinset.card ∧
        (∃ start, ring.StartsAt token start ∧ ring.Walks start (max factor 1) replicas) ∧
        ∀ more longer, (ofNodes nodes (factor + more)).replicas? token = some longer →
          replicas <+: longer := by
  intro ring
  have maps := maps_ofNodes nodes factor
  refine ⟨maps, replicas?_ofNodes_eq_none_iff, fun replicas found => ?_⟩
  obtain ⟨_, rfl⟩ := replicas?_eq_some_iff.1 found
  refine ⟨ring.nodup_replicas token, ring.length_replicas token,
    exists_walk maps.increasing token, fun more longer later => ?_⟩
  obtain ⟨_, rfl⟩ := replicas?_eq_some_iff.1 later
  -- The walk is the same, and more of it counts.
  apply List.take_prefix_take_left
  show max factor 1 ≤ max (factor + more) 1
  omega

def sharers : List (SocketAddress × List Int64) :=
  [(.v4 0x0A000002 9042, [100, 7]), (.v4 0x0A000001 9042, [7, -100]), (.v4 0x0A000003 9042, [0])]

theorem sharers_replicas_walk :
    let ring := ofNodes sharers 2
    ring.replicas? 50 = some [.v4 0x0A000002 9042, .v4 0x0A000001 9042] ∧
      ring.Maps sharers ∧
      (∃ start, ring.StartsAt 50 start ∧
        ring.Walks start 2 [.v4 0x0A000002 9042, .v4 0x0A000001 9042]) ∧
      ([.v4 0x0A000002 9042, .v4 0x0A000001 9042] : List SocketAddress) <+:
        [.v4 0x0A000002 9042, .v4 0x0A000001 9042, .v4 0x0A000003 9042] := by
  intro ring
  have found : ring.replicas? 50 = some [.v4 0x0A000002 9042, .v4 0x0A000001 9042] := by cbv
  have later : (ofNodes sharers (2 + 1)).replicas? 50 =
      some [.v4 0x0A000002 9042, .v4 0x0A000001 9042, .v4 0x0A000003 9042] := by cbv
  obtain ⟨maps, _, walks⟩ := replicas_walk sharers 2 50
  obtain ⟨_, _, walk, longer⟩ := walks _ found
  exact ⟨found, maps, walk, longer 1 _ later⟩

theorem immense_factor_finds_nobody :
    let ring := ofNodes [(.v4 0x7F000001 9042, [0])] 0x1000000000000000
    ¬∃ replicas, ring.replicas? 0 = some replicas ∧
      replicas.length = min (max 0x1000000000000000 1) 1 := by
  intro ring
  have none : ring.replicas? 0 = none :=
    replicas?_ofNodes_eq_none_iff.2
      ⟨⟨.v4 0x7F000001 9042, 0, [0], List.mem_singleton.2 rfl, List.mem_singleton.2 rfl⟩,
        by decide⟩
  rintro ⟨replicas, found, _⟩
  rw [none] at found
  cases found

end Replicas

end TokenRing

end ClusterDriver
