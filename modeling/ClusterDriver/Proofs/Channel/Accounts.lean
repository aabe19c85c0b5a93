import ClusterDriver.Proofs.Channel.Handling

set_option autoImplicit false

namespace ClusterDriver.Channel

def expected (channel : Channel) : List StreamId :=
  channel.pending.keys ++ channel.orphans ++ (channel.heartbeat.map (·.stream)).toList

def owners (channel : Channel) (stream : StreamId) : Nat :=
  (if stream ∈ channel.pending then 1 else 0) + channel.orphans.count stream
    + (if channel.heartbeat.map (·.stream) = some stream then 1 else 0)

theorem count_expected (channel : Channel) (stream : StreamId) :
    channel.expected.count stream = channel.owners stream := by
  have keys : channel.pending.keys.count stream = if stream ∈ channel.pending then 1 else 0 := by
    have distinct : channel.pending.keys.Nodup := Std.TreeMap.nodup_keys
    rw [distinct.count]
    simp only [Std.TreeMap.mem_keys]
  have beat : (channel.heartbeat.map (·.stream)).toList.count stream =
      if channel.heartbeat.map (·.stream) = some stream then 1 else 0 := by
    cases channel.heartbeat with
    | none => rfl
    | some heartbeat => simp [List.count_singleton]
  rw [expected, List.count_append, List.count_append, keys, beat, owners]

def Inverse (requests : Std.TreeMap RequestId StreamId) (pending : Std.TreeMap StreamId RequestId) :
    Prop :=
  ∀ (request : RequestId) (stream : StreamId),
    requests[request]? = some stream ↔ pending[stream]? = some request

theorem Inverse.insert {requests : Std.TreeMap RequestId StreamId}
    {pending : Std.TreeMap StreamId RequestId} (inverse : Inverse requests pending)
    {request : RequestId} {stream : StreamId} (fresh : requests[request]? = none)
    (free : pending[stream]? = none) :
    Inverse (requests.insert request stream) (pending.insert stream request) := by
  intro tested other
  have old := inverse tested other
  simp only [Std.TreeMap.getElem?_insert, Std.LawfulEqCmp.compare_eq_iff_eq]
  by_cases same : request = tested
  · subst same
    by_cases equal : stream = other
    · simp [equal]
    · simp [equal, ← old, fresh]
  · by_cases equal : stream = other
    · subst equal
      simp [same, old, free]
    · simp [same, equal, old]

theorem Inverse.erase {requests : Std.TreeMap RequestId StreamId}
    {pending : Std.TreeMap StreamId RequestId} (inverse : Inverse requests pending)
    {request : RequestId} {stream : StreamId} (found : requests[request]? = some stream) :
    Inverse (requests.erase request) (pending.erase stream) := by
  have back := (inverse request stream).1 found
  intro tested other
  have old := inverse tested other
  simp only [Std.TreeMap.getElem?_erase, Std.LawfulEqCmp.compare_eq_iff_eq]
  by_cases same : request = tested
  · subst same
    by_cases equal : stream = other
    · simp [equal]
    · simp [equal, ← old, found]
  · by_cases equal : stream = other
    · subst equal
      simp [same, old, back]
    · simp [same, equal, old]

theorem erase_eq_some {requests : Std.TreeMap RequestId StreamId} {request other : RequestId}
    {stream : StreamId} (found : (requests.erase request)[other]? = some stream) :
    requests[other]? = some stream := by
  rw [Std.TreeMap.getElem?_erase] at found
  split at found
  · cases found
  · exact found

theorem erase_eq_none {requests : Std.TreeMap RequestId StreamId} {other : RequestId}
    (absent : requests[other]? = none) (request : RequestId) :
    (requests.erase request)[other]? = none := by
  rw [Std.TreeMap.getElem?_erase, absent, ite_self]

/-- The books of a connection are in order; `entered` senders hold a reservation and have not
queued their request yet. -/
structure Consistent (channel : Channel) (entered : Nat) : Prop where
  valid : channel.ids.Valid
  capacity : channel.ids.capacity = channel.capacity
  owned : ∀ stream, channel.owners stream = if channel.ids.Holds stream then 1 else 0
  inverse : Inverse channel.requests channel.pending
  distinct : (queuedRequests channel.commands).Nodup
  unsent : ∀ request ∈ queuedRequests channel.commands, channel.requests[request]? = none
  queued_old : ∀ request ∈ queuedRequests channel.commands, request < channel.nextRequest
  sent_old : ∀ (request : RequestId) (stream : StreamId),
    channel.requests[request]? = some stream → request < channel.nextRequest
  counted : channel.inFlight =
    channel.ids.held.card + (queuedRequests channel.commands).length + entered
  bounded : channel.inFlight ≤ channel.capacity
  tolerated : channel.orphans.length ≤ channel.limits.orphanLimit

theorem orphanLimit_lt_capacity (channel : Channel) :
    channel.limits.orphanLimit < channel.capacity := by
  simp only [ChannelLimits.orphanLimit, Channel.capacity, ChannelLimits.capacity, maxStreamsLimit]
  omega

theorem opened_consistent (limits : ChannelLimits) (now : Nat) :
    (opened limits now).Consistent 0 where
  valid := StreamIds.ofCapacity_valid _
  capacity := Nat.min_eq_left (Nat.min_le_right _ _)
  owned := by
    intro stream
    simp [owners, opened, StreamIds.Holds, StreamIds.ofCapacity_held]
  inverse := fun request stream => by simp [opened]
  distinct := List.nodup_nil
  unsent := nofun
  queued_old := nofun
  sent_old := by simp [opened]
  counted := by simp [opened, StreamIds.ofCapacity_held, queuedRequests]
  bounded := Nat.zero_le _
  tolerated := Nat.zero_le _

namespace Consistent

variable {channel : Channel} {entered : Nat}

theorem mem_pending {stream : StreamId} {request : RequestId}
    (found : channel.pending[stream]? = some request) : stream ∈ channel.pending := by
  rw [Std.TreeMap.mem_iff_isSome_getElem?, found]
  rfl

theorem holds_of_owners (consistent : channel.Consistent entered) {stream : StreamId}
    (owned : 0 < channel.owners stream) : channel.ids.Holds stream := by
  by_contra free
  have none := consistent.owned stream
  rw [if_neg free] at none
  omega

theorem ne_eventStream (consistent : channel.Consistent entered) {stream : StreamId}
    (owned : 0 < channel.owners stream) : stream ≠ eventStream := by
  rintro rfl
  exact absurd (consistent.holds_of_owners owned).1 (by decide)

theorem owners_le_one (consistent : channel.Consistent entered) (stream : StreamId) :
    channel.owners stream ≤ 1 := by
  rw [consistent.owned stream]
  split <;> simp

theorem owners_acquired (consistent : channel.Consistent entered) {stream : StreamId}
    {ids : StreamIds} (acquired : channel.ids.acquire? = some (stream, ids)) :
    channel.owners stream = 0 := by
  have free := (StreamIds.acquire?_holds consistent.valid acquired).1
  rw [consistent.owned stream, if_neg free]

theorem pending_acquired (consistent : channel.Consistent entered) {stream : StreamId}
    {ids : StreamIds} (acquired : channel.ids.acquire? = some (stream, ids)) :
    channel.pending[stream]? = none := by
  have unowned := consistent.owners_acquired acquired
  refine Std.TreeMap.getElem?_eq_none fun present => ?_
  simp [owners, present] at unowned

theorem owned_pending {stream : StreamId} {request : RequestId}
    (found : channel.pending[stream]? = some request) : 0 < channel.owners stream := by
  simp only [owners, mem_pending found, if_true]
  omega

theorem freed (consistent : channel.Consistent entered) {stream : StreamId}
    {pending : Std.TreeMap StreamId RequestId} {requests : Std.TreeMap RequestId StreamId}
    {orphans : List StreamId} {heartbeat : Option Heartbeat} {lastRead : Nat}
    (owned : 0 < channel.owners stream)
    (others : ∀ tested,
      { channel with pending, requests, orphans, heartbeat, lastRead }.owners tested =
        if tested = stream then 0 else channel.owners tested)
    (inverse : Inverse requests pending)
    (fewer : ∀ (request : RequestId) (other : StreamId),
      requests[request]? = some other → channel.requests[request]? = some other)
    (tolerated : orphans.length ≤ channel.limits.orphanLimit) :
    Consistent ({ channel with pending, requests, orphans, heartbeat, lastRead }.freeStream stream)
      entered := by
  have present := consistent.holds_of_owners owned
  have counted := consistent.counted
  cases released : channel.ids.release? stream with
  | none => exact absurd present ((StreamIds.release?_eq_none_iff stream).1 released)
  | some ids =>
    obtain ⟨holds, card, capacity, valid⟩ := StreamIds.release?_holds consistent.valid released
    simp only [freeStream_eq, released, Option.getD_some, Option.toList_some, List.length_singleton]
    exact { consistent with
      valid
      capacity := capacity.trans consistent.capacity
      owned := by
        intro tested
        refine (others tested).trans ?_
        simp only [holds, consistent.owned tested]
        by_cases same : tested = stream
        · simp [same]
        · simp [same]
      inverse
      unsent := by
        intro request member
        cases found : requests[request]? with
        | none => rfl
        | some other =>
          exact absurd (fewer request other found) (by simp [consistent.unsent request member])
      sent_old := fun request other found =>
        consistent.sent_old request other (fewer request other found)
      -- One reservation goes with the id.
      counted := by simp only; omega
      bounded := le_trans (Nat.sub_le _ _) consistent.bounded
      tolerated }

theorem owned_acquired (consistent : channel.Consistent entered) {stream : StreamId}
    {ids : StreamIds} (acquired : channel.ids.acquire? = some (stream, ids)) {later : Channel}
    (others : ∀ tested,
      later.owners tested = channel.owners tested + if tested = stream then 1 else 0)
    (tested : StreamId) : later.owners tested = if ids.Holds tested then 1 else 0 := by
  obtain ⟨free, holds, _⟩ := StreamIds.acquire?_holds consistent.valid acquired
  rw [others, consistent.owned tested]
  simp only [holds]
  by_cases same : tested = stream
  · simp [same, free]
  · simp [same]

theorem acquires (consistent : channel.Consistent entered) {request : RequestId} {opcode : Opcode}
    {body : ByteArray} {rest : List Command}
    (first : channel.commands = .send request opcode body :: rest) :
    channel.ids.acquire? ≠ none := by
  intro refused
  -- With all ids in use, the queued request would be one reservation too many.
  have full := StreamIds.acquire?_none consistent.valid refused
  have counted := consistent.counted
  have bounded := consistent.bounded
  have capacity := consistent.capacity
  simp only [first, queuedRequests_send, List.length_cons] at counted
  omega

theorem refused (consistent : channel.Consistent entered) {request : RequestId} {opcode : Opcode}
    {body : ByteArray} {rest : List Command}
    (first : channel.commands = .send request opcode body :: rest) :
    { channel with commands := rest }.release.Consistent entered := by
  have counted := consistent.counted
  have distinct := consistent.distinct
  simp only [first, queuedRequests_send, List.length_cons, List.nodup_cons] at counted distinct
  have later {other : RequestId} (member : other ∈ queuedRequests rest) :
      other ∈ queuedRequests channel.commands := by
    simp [first, member]
  exact { consistent with
    distinct := distinct.2
    unsent := fun other member => consistent.unsent other (later member)
    queued_old := fun other member => consistent.queued_old other (later member)
    counted := by simp only [release]; omega
    bounded := le_trans (Nat.sub_le _ _) consistent.bounded }

theorem sent (consistent : channel.Consistent entered) {request : RequestId} {opcode : Opcode}
    {body : ByteArray} {rest : List Command} {stream : StreamId} {ids : StreamIds}
    (first : channel.commands = .send request opcode body :: rest)
    (acquired : channel.ids.acquire? = some (stream, ids)) :
    Consistent { channel with
      commands := rest
      ids
      pending := channel.pending.insert stream request
      requests := channel.requests.insert request stream } entered := by
  obtain ⟨_, _, card, capacity, valid⟩ := StreamIds.acquire?_holds consistent.valid acquired
  have absent : stream ∉ channel.pending := by
    simp [Std.TreeMap.mem_iff_isSome_getElem?, consistent.pending_acquired acquired]
  have queued : request ∈ queuedRequests channel.commands := by simp [first]
  have fresh := consistent.unsent request queued
  have counted := consistent.counted
  have distinct := consistent.distinct
  simp only [first, queuedRequests_send, List.length_cons, List.nodup_cons] at counted distinct
  have later {other : RequestId} (member : other ∈ queuedRequests rest) :
      other ∈ queuedRequests channel.commands := by
    simp [first, member]
  exact { consistent with
    valid
    capacity := capacity.trans consistent.capacity
    owned := by
      refine consistent.owned_acquired acquired fun tested => ?_
      simp only [owners, Std.TreeMap.mem_insert, Std.LawfulEqCmp.compare_eq_iff_eq]
      -- The new request is the one owner of the stream, which had none.
      by_cases same : tested = stream
      · simp [same, absent]
        omega
      · simp [same, Ne.symm same]
    inverse := consistent.inverse.insert fresh (consistent.pending_acquired acquired)
    distinct := distinct.2
    unsent := by
      intro other member
      have different : request ≠ other := fun same => distinct.1 (same ▸ member)
      simp only [Std.TreeMap.getElem?_insert, Std.LawfulEqCmp.compare_eq_iff_eq, different,
        if_false]
      exact consistent.unsent other (later member)
    queued_old := fun other member => consistent.queued_old other (later member)
    sent_old := by
      intro other found
      simp only [Std.TreeMap.getElem?_insert, Std.LawfulEqCmp.compare_eq_iff_eq]
      split
      next same => exact fun _ => same ▸ consistent.queued_old request queued
      next => exact consistent.sent_old other found
    counted := by simp only; omega }

theorem quiet (consistent : channel.Consistent entered) {commands : List Command} {lastRead : Nat}
    {drainDeadline : Option Nat}
    (kept : queuedRequests commands = queuedRequests channel.commands) :
    Consistent { channel with commands, lastRead, drainDeadline } entered :=
  { consistent with
    distinct := by simpa only [kept] using consistent.distinct
    unsent := by simpa only [kept] using consistent.unsent
    queued_old := by simpa only [kept] using consistent.queued_old
    counted := by simpa only [kept] using consistent.counted }

theorem owners_orphaned {stream : StreamId} {request : RequestId} {commands : List Command}
    {requests : Std.TreeMap RequestId StreamId}
    (found : channel.pending[stream]? = some request) (tested : StreamId) :
    { channel with
      commands
      requests
      pending := channel.pending.erase stream
      orphans := stream :: channel.orphans }.owners tested = channel.owners tested := by
  simp only [owners, Std.TreeMap.mem_erase, ne_eq, Std.LawfulEqCmp.compare_eq_iff_eq,
    List.count_cons, beq_iff_eq]
  by_cases same : stream = tested
  · subst same
    simp only [mem_pending found, not_true_eq_false, false_and, if_false, if_true]
    omega
  · simp [same]

theorem orphaned (consistent : channel.Consistent entered) {request : RequestId}
    {rest : List Command} {stream : StreamId}
    (first : channel.commands = .abandon request :: rest)
    (found : channel.requests[request]? = some stream)
    (tolerated : channel.orphans.length + 1 ≤ channel.limits.orphanLimit) :
    Consistent { channel with
      commands := rest
      requests := channel.requests.erase request
      pending := channel.pending.erase stream
      orphans := stream :: channel.orphans } entered := by
  have kept : queuedRequests rest = queuedRequests channel.commands := by simp [first]
  have pending := (consistent.inverse request stream).1 found
  exact { consistent with
    owned := fun tested => (owners_orphaned pending tested).trans (consistent.owned tested)
    inverse := consistent.inverse.erase found
    distinct := by simpa only [kept] using consistent.distinct
    unsent := fun other member => erase_eq_none (consistent.unsent other (kept ▸ member)) request
    queued_old := by simpa only [kept] using consistent.queued_old
    sent_old := fun other stream found => consistent.sent_old other stream (erase_eq_some found)
    counted := by simpa only [kept] using consistent.counted
    tolerated }

theorem answered (consistent : channel.Consistent entered) {stream : StreamId} {lastRead : Nat}
    {request : RequestId} (found : channel.pending[stream]? = some request) :
    Consistent ({ channel with
      lastRead
      pending := channel.pending.erase stream
      requests := channel.requests.erase request }.freeStream stream) entered := by
  have owned := owned_pending found
  have known := (consistent.inverse request stream).2 found
  refine consistent.freed owned ?_ (consistent.inverse.erase known)
    (fun _ _ still => erase_eq_some still) consistent.tolerated
  intro tested
  simp only [owners, Std.TreeMap.mem_erase, ne_eq, Std.LawfulEqCmp.compare_eq_iff_eq]
  by_cases same : tested = stream
  · -- The only owner of the stream is the request, so it is neither an orphan nor the heartbeat's.
    have single := consistent.owners_le_one stream
    subst same
    simp only [owners, mem_pending found, if_true] at single
    simp only [not_true_eq_false, false_and, if_false, if_true]
    omega
  · simp [same, Ne.symm same]

theorem discarded (consistent : channel.Consistent entered) {stream : StreamId} {lastRead : Nat}
    (orphan : stream ∈ channel.orphans) :
    Consistent ({ channel with
      lastRead
      orphans := channel.orphans.erase stream }.freeStream stream) entered := by
  have present := List.count_pos_iff.2 orphan
  have owned : 0 < channel.owners stream := by
    simp only [owners]
    omega
  refine consistent.freed owned ?_ consistent.inverse (fun _ _ found => found)
    (le_trans List.length_erase_le consistent.tolerated)
  intro tested
  simp only [owners]
  by_cases same : tested = stream
  · have single := consistent.owners_le_one stream
    subst same
    simp only [owners] at single
    simp only [List.count_erase_self, if_true]
    omega
  · simp [same, List.count_erase_of_ne same]

theorem beatAnswered (consistent : channel.Consistent entered) {heartbeat : Heartbeat}
    {lastRead : Nat} (outstanding : channel.heartbeat = some heartbeat) :
    Consistent ({ channel with lastRead, heartbeat := none }.freeStream heartbeat.stream)
      entered := by
  have owned : 0 < channel.owners heartbeat.stream := by
    simp only [owners, outstanding, Option.map_some, if_true]
    omega
  refine consistent.freed owned ?_ consistent.inverse (fun _ _ found => found)
    consistent.tolerated
  intro tested
  simp only [owners, outstanding, Option.map_none, Option.map_some, Option.some.injEq,
    reduceCtorEq, if_false]
  by_cases same : tested = heartbeat.stream
  · have single := consistent.owners_le_one heartbeat.stream
    subst same
    simp only [owners, outstanding, Option.map_some, if_true] at single
    simp only [if_true]
    omega
  · simp [same, Ne.symm same]

theorem beatSent (consistent : channel.Consistent entered) {stream : StreamId} {ids : StreamIds}
    {deadline : Nat} (idle : channel.heartbeat = none)
    (room : channel.inFlight < channel.capacity)
    (acquired : channel.ids.acquire? = some (stream, ids)) :
    Consistent { channel with
      inFlight := channel.inFlight + 1
      ids
      heartbeat := some ⟨stream, deadline⟩ } entered := by
  obtain ⟨_, _, card, capacity, valid⟩ := StreamIds.acquire?_holds consistent.valid acquired
  have counted := consistent.counted
  exact { consistent with
    valid
    capacity := capacity.trans consistent.capacity
    owned := by
      refine consistent.owned_acquired acquired fun tested => ?_
      simp [owners, idle, eq_comm]
    counted := by simp only; omega
    bounded := room }

theorem handled (consistent : channel.Consistent entered) {event : Event} {reaction : Reaction}
    (handled : Handled channel event reaction) (goesOn : reaction.ending = none) :
    reaction.channel.Consistent entered := by
  cases handled with
  | quiet kept _ _ => exact consistent.quiet kept
  | refused first => exact consistent.refused first
  | starved first none => exact absurd none (consistent.acquires first)
  | sent first acquired _ _ => exact consistent.sent first acquired
  | orphaned first found tolerated => exact consistent.orphaned first found (tolerated goesOn)
  | answered _ found => exact consistent.answered found
  | discarded _ orphan => exact consistent.discarded orphan
  | rejected _ _ _ => exact { consistent with }
  | beatAnswered outstanding same => exact same ▸ consistent.beatAnswered outstanding
  | beatSent idle room acquired => exact consistent.beatSent idle room acquired
  | beatFailed _ => cases goesOn
  | beatStarved room none =>
    -- Where there is room for a reservation, there is an id.
    have full := StreamIds.acquire?_none consistent.valid none
    have counted := consistent.counted
    have capacity := consistent.capacity
    omega

theorem reserved (consistent : channel.Consistent entered)
    (room : channel.inFlight < channel.capacity) :
    Consistent { channel with inFlight := channel.inFlight + 1 } (entered + 1) := by
  have counted := consistent.counted
  exact { consistent with
    counted := by simp only; omega
    bounded := room }

theorem queued (consistent : channel.Consistent (entered + 1)) (opcode : Opcode)
    (body : ByteArray) :
    Consistent { channel with
      nextRequest := channel.nextRequest + 1
      commands := channel.commands ++ [.send channel.nextRequest opcode body] } entered := by
  have added : queuedRequests (channel.commands ++ [.send channel.nextRequest opcode body]) =
      queuedRequests channel.commands ++ [channel.nextRequest] := by simp [queuedRequests]
  have counted := consistent.counted
  have fresh : channel.nextRequest ∉ queuedRequests channel.commands :=
    fun member => absurd (consistent.queued_old _ member) (Nat.lt_irrefl _)
  exact { consistent with
    distinct := by
      rw [added]
      exact consistent.distinct.append (List.nodup_singleton _) (List.disjoint_singleton.2 fresh)
    unsent := by
      intro request member
      rw [added, List.mem_append, List.mem_singleton] at member
      rcases member with old | rfl
      · exact consistent.unsent request old
      · -- Numbers are given out in order, so the next one has not been sent yet.
        cases found : channel.requests[channel.nextRequest]? with
        | none => rfl
        | some stream => exact absurd (consistent.sent_old _ stream found) (Nat.lt_irrefl _)
    queued_old := by
      intro request member
      rw [added, List.mem_append, List.mem_singleton] at member
      rcases member with old | rfl
      · exact Nat.lt_succ_of_lt (consistent.queued_old request old)
      · exact Nat.lt_succ_self _
    sent_old := fun request stream found =>
      Nat.lt_succ_of_lt (consistent.sent_old request stream found)
    counted := by
      rw [added, List.length_append, List.length_singleton]
      simp only
      omega }

theorem enqueued (consistent : channel.Consistent entered) {command : Command}
    (other : queuedRequests [command] = []) : (channel.enqueue command).Consistent entered := by
  unfold enqueue
  split
  next => exact consistent
  next =>
    exact consistent.quiet (by simp [other])

end Consistent

end ClusterDriver.Channel
