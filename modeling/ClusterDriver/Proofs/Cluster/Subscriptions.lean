import ClusterDriver.Proofs.Cluster.History
import Mathlib.Data.List.Nodup

set_option autoImplicit false

namespace ClusterDriver

/-- Events of one node that lead from one state to another, each by a change, and none from the
state that is never left. -/
inductive Replay : NodeState → List NodeEvent → NodeState → Prop
  | nil {state : NodeState} : Replay state [] state
  | cons {event : NodeEvent} {events : List NodeEvent} {last : NodeState}
      (changes : event.previous ≠ event.current) (present : event.previous ≠ .removed)
      (more : Replay event.current events last) : Replay event.previous (event :: events) last

theorem Replay.concat {start last : NodeState} {events : List NodeEvent}
    (replay : Replay start events last) {event : NodeEvent} (follows : event.previous = last)
    (changes : event.previous ≠ event.current) (present : event.previous ≠ .removed) :
    Replay start (events ++ [event]) event.current := by
  induction replay with
  | nil =>
    subst follows
    exact .cons changes present .nil
  | cons otherChanges otherPresent _ ih => exact .cons otherChanges otherPresent (ih follows)

theorem Replay.transition {node : Node} {start : NodeState} {events : List NodeEvent}
    (replay : Replay start events node.state) (next : NodeState) :
    Replay start (events ++ (node.transition next).2.toList) (node.transition next).1.state := by
  unfold Node.transition
  split
  next => simpa using replay
  next moves =>
    rw [not_or] at moves
    exact replay.concat rfl moves.1 moves.2

theorem Node.transition_event {node : Node} {next : NodeState} {event : NodeEvent}
    (told : event ∈ (node.transition next).2) : event.node = node.address := by
  unfold transition at told
  split at told
  next => simp at told
  next =>
    cases told
    rfl

namespace Tracker

structure Mapped (tracker : Tracker) (factor : Nat) : Prop where
  replicates : tracker.replicationFactor = factor
  current : tracker.nodes ≠ [] → tracker.ring =
    .ofNodes (tracker.present.map fun node => (node.address, node.tokens)) factor

section Rings

variable {tracker : Tracker} {factor : Nat} {node changed : Node}

theorem present_update {α : Type} (known : tracker.node? changed.id = some node) (view : Node → α)
    (same : view changed = view node) :
    (tracker.update changed).present.map view = tracker.present.map view := by
  have viewed : ∀ id, ((tracker.update changed).node? id).map view =
      (tracker.node? id).map view := by
    intro id
    rw [node?_update known]
    split
    next here => rw [← here, known, Option.map_some, Option.map_some, same]
    next => rfl
  rw [present, present, List.map_filterMap, List.map_filterMap]
  exact List.filterMap_congr fun id _ => viewed id

theorem Mapped.update (mapped : tracker.Mapped factor) (known : tracker.node? changed.id = some node)
    (address : changed.address = node.address) (tokens : changed.tokens = node.tokens) :
    (tracker.update changed).Mapped factor where
  replicates := mapped.replicates
  current known' := by
    have before : tracker.nodes ≠ [] := by
      simpa [Tracker.update] using known'
    rw [present_update known (fun node => (node.address, node.tokens)) (by rw [address, tokens])]
    exact mapped.current before

theorem Mapped.transition (mapped : tracker.Mapped factor) (orderly : tracker.Orderly) {id : NodeId}
    (known : tracker.node? id = some node) (next : NodeState) :
    (tracker.transition node next).1.Mapped factor := by
  have changed := transition_eq node next
  have sameId : (node.transition next).1.id = id := by
    rw [changed]
    exact orderly.numbered id node known
  have sameAddress : (node.transition next).1.address = node.address := by
    rw [changed]
  have sameTokens : (node.transition next).1.tokens = node.tokens := by
    rw [changed]
  have found : tracker.node? (node.transition next).1.id = some node := by
    rwa [sameId]
  exact mapped.update found sameAddress sameTokens

theorem mapped_rebuildRing (same : tracker.replicationFactor = factor) :
    tracker.rebuildRing.Mapped factor where
  replicates := same
  current _ := by
    rw [← same]
    rfl

theorem Mapped.addNode (mapped : tracker.Mapped factor) (contact : ContactPoint) :
    (tracker.addNode contact).1.Mapped factor := by
  unfold Tracker.addNode
  split
  next => exact mapped
  next => exact mapped_rebuildRing mapped.replicates

theorem Orderly.addresses_nodup (orderly : tracker.Orderly) :
    (tracker.present.map (·.address)).Nodup := by
  rw [present, List.map_filterMap, List.Nodup, List.pairwise_filterMap]
  refine orderly.distinct.imp_of_mem fun {first second} firstMember secondMember different => ?_
  rintro address one other two rfl
  refine different (orderly.apart first firstMember second secondMember ?_)
  simp only [holding?, Option.map_map]
  exact one.trans two.symm

end Rings

end Tracker

/-- `start` holds the nodes as they were when the listener subscribed. With each event that it has
heard stands the number of the node that was found under the address of the event. -/
structure Subscription where
  start : Tracker
  heard : List (Option NodeId × NodeEvent) := []

namespace Subscription

def eventsOf (subscription : Subscription) (id : NodeId) : List NodeEvent :=
  (subscription.heard.filter fun entry => entry.1 = some id).map (·.2)

def startOf (subscription : Subscription) (id : NodeId) : NodeState :=
  ((subscription.start.node? id).map (·.state)).getD .unknown

def hear (subscription : Subscription) (tracker : Tracker) (events : List NodeEvent) :
    Subscription :=
  { subscription with
    heard := subscription.heard ++ events.map fun event =>
      ((tracker.find? event.node).map (·.id), event) }

structure Faithful (subscription : Subscription) (tracker : Tracker) : Prop where
  earlier : subscription.start.nodes.length ≤ tracker.nodes.length
  named : ∀ entry ∈ subscription.heard, ∃ id node, entry.1 = some id ∧
    tracker.node? id = some node ∧ entry.2.node = node.address
  replays : ∀ id node, tracker.node? id = some node →
    Replay (subscription.startOf id) (subscription.eventsOf id) node.state

section Hearing

variable {subscription : Subscription} {tracker later : Tracker}

@[simp] theorem hear_nil : subscription.hear tracker [] = subscription := by
  simp [hear]

@[simp] theorem startOf_hear (events : List NodeEvent) (id : NodeId) :
    (subscription.hear tracker events).startOf id = subscription.startOf id := rfl

theorem eventsOf_hear {events : List NodeEvent} {node : Node}
    (own : ∀ event ∈ events, event.node = node.address)
    (found : tracker.find? node.address = some node) (id : NodeId) :
    (subscription.hear tracker events).eventsOf id =
      subscription.eventsOf id ++ if node.id = id then events else [] := by
  have sender : events.map (fun event => ((tracker.find? event.node).map (·.id), event)) =
      events.map fun event => (some node.id, event) := by
    refine List.map_congr_left fun event told => ?_
    rw [own event told, found, Option.map_some]
  simp only [eventsOf, hear, sender, List.filter_append, List.map_append]
  split
  next same => simp [List.filter_map, Function.comp_def, same]
  next other => simp [List.filter_map, Function.comp_def, other]

theorem Faithful.subscribed (tracker : Tracker) : Faithful { start := tracker } tracker where
  earlier := Nat.le_refl _
  named := nofun
  replays id node known := by
    have same : startOf { start := tracker } id = node.state := by
      simp [startOf, known]
    rw [same]
    exact .nil

theorem Faithful.undisturbed (faithful : subscription.Faithful tracker)
    (length : tracker.nodes.length = later.nodes.length)
    (same : ∀ id, (later.node? id).map (fun node => (node.address, node.state)) =
      (tracker.node? id).map fun node => (node.address, node.state)) :
    subscription.Faithful later where
  earlier := length ▸ faithful.earlier
  named entry member := by
    obtain ⟨id, node, sender, known, own⟩ := faithful.named entry member
    have kept := same id
    rw [known, Option.map_some, Option.map_eq_some_iff] at kept
    obtain ⟨other, knownLater, view⟩ := kept
    exact ⟨id, other, sender, knownLater, own.trans (congrArg Prod.fst view).symm⟩
  replays id node known := by
    have kept := same id
    rw [known, Option.map_some, eq_comm, Option.map_eq_some_iff] at kept
    obtain ⟨before, knownBefore, view⟩ := kept
    have sameState : before.state = node.state := congrArg Prod.snd view
    rw [← sameState]
    exact faithful.replays id before knownBefore

theorem Faithful.added (faithful : subscription.Faithful tracker) {node : Node}
    (fresh : node.state = .unknown) (added : later.nodes = tracker.nodes ++ [node]) :
    subscription.Faithful later where
  earlier := by
    rw [added, List.length_append]
    exact Nat.le_add_right_of_le faithful.earlier
  named entry member := by
    obtain ⟨id, other, sender, known, own⟩ := faithful.named entry member
    refine ⟨id, other, sender, ?_, own⟩
    rw [Tracker.node?_added added, if_neg (Nat.ne_of_lt (Tracker.node?_lt known)), known]
  replays id other known := by
    rw [Tracker.node?_added added] at known
    split at known
    next newest =>
      cases known
      -- Nobody has heard of a node before it is there.
      have silent : subscription.eventsOf id = [] := by
        rw [eventsOf, List.map_eq_nil_iff, List.filter_eq_nil_iff]
        intro entry member
        obtain ⟨sender, _, named, present, _⟩ := faithful.named entry member
        simp only [named, Option.some.injEq, decide_eq_true_eq, newest]
        exact Nat.ne_of_lt (Tracker.node?_lt present)
      have absent : subscription.start.node? id = none := by
        rw [newest]
        exact List.getElem?_eq_none faithful.earlier
      rw [silent, fresh, startOf, absent]
      exact .nil
    next => exact faithful.replays id other known

theorem Faithful.transition (faithful : subscription.Faithful tracker) {node : Node}
    (found : tracker.find? node.address = some node) (known : tracker.node? node.id = some node)
    (next : NodeState) (length : tracker.nodes.length = later.nodes.length)
    (changed : ∀ id, later.node? id =
      if node.id = id then some (node.transition next).1 else tracker.node? id) :
    (subscription.hear tracker (node.transition next).2.toList).Faithful later := by
  -- The address of the event is still that of the node, so the listener takes it for this node.
  have own : ∀ event ∈ (node.transition next).2.toList, event.node = node.address :=
    fun event told => Node.transition_event (Option.mem_toList.1 told)
  have sameAddress : (node.transition next).1.address = node.address := by
    rw [Tracker.transition_eq]
  refine ⟨length ▸ faithful.earlier, ?_, ?_⟩
  · intro entry member
    rcases List.mem_append.1 member with old | new
    · obtain ⟨id, other, sender, knownBefore, address⟩ := faithful.named entry old
      by_cases here : node.id = id
      · rw [← here, known] at knownBefore
        cases knownBefore
        exact ⟨id, _, sender, by rw [changed, if_pos here], address.trans sameAddress.symm⟩
      · exact ⟨id, other, sender, by rw [changed, if_neg here, knownBefore], address⟩
    · obtain ⟨event, told, rfl⟩ := List.mem_map.1 new
      refine ⟨node.id, _, ?_, by rw [changed, if_pos rfl], (own event told).trans sameAddress.symm⟩
      rw [own event told, found, Option.map_some]
  · intro id other knownLater
    rw [eventsOf_hear own found, startOf_hear]
    rw [changed] at knownLater
    split at knownLater
    next here =>
      cases knownLater
      rw [if_pos here]
      exact (faithful.replays id node (here ▸ known)).transition next
    next elsewhere =>
      rw [if_neg elsewhere, List.append_nil]
      exact faithful.replays id other knownLater

end Hearing

end Subscription

/-- What is done to a tracker keeps it in order and is told to everybody who listens. -/
structure Tracker.Advances (tracker later : Tracker) (events : List NodeEvent) : Prop where
  orderly : later.Orderly
  mapped : ∀ factor, tracker.Mapped factor → later.Mapped factor
  faithful : ∀ subscription : Subscription, subscription.Faithful tracker →
    (subscription.hear tracker events).Faithful later

namespace Tracker

section Operations

variable {tracker : Tracker}

theorem Orderly.stays (orderly : tracker.Orderly) : tracker.Advances tracker [] where
  orderly := orderly
  mapped _ mapped := mapped
  faithful subscription faithful := by rwa [Subscription.hear_nil]

theorem Orderly.find?_known (orderly : tracker.Orderly) {address : SocketAddress} {node : Node}
    (found : tracker.find? address = some node) :
    tracker.find? node.address = some node ∧ tracker.node? node.id = some node := by
  obtain ⟨same, id, _, known⟩ := find?_some found
  exact ⟨same ▸ found, (orderly.numbered id node known).symm ▸ known⟩

theorem Orderly.transits (orderly : tracker.Orderly) {address : SocketAddress} {node : Node}
    (found : tracker.find? address = some node) (next : NodeState) :
    tracker.Advances (tracker.transition node next).1 (tracker.transition node next).2 := by
  obtain ⟨present, known⟩ := orderly.find?_known found
  obtain ⟨after, _, _, changed⟩ := transition_spec orderly known next
  exact ⟨after, fun factor mapped => mapped.transition orderly known next,
    fun subscription faithful =>
      faithful.transition present known next List.length_set.symm changed⟩

theorem Orderly.adds (orderly : tracker.Orderly) (contact : ContactPoint) :
    tracker.Advances (tracker.addNode contact).1 [] := by
  refine ⟨orderly.addNode contact, fun factor mapped => mapped.addNode contact,
    fun subscription faithful => ?_⟩
  rw [Subscription.hear_nil]
  rcases tracker.addNode_cases contact with same | ⟨_, node, _, _, fresh, _, added, _⟩
  · rwa [same]
  · exact faithful.added fresh added

theorem Orderly.removes (orderly : tracker.Orderly) {address : SocketAddress} {later : Tracker}
    {node : Node} {events : List NodeEvent}
    (removed : tracker.removeNode address = some (later, node, events)) :
    tracker.Advances later events := by
  unfold removeNode at removed
  cases found : tracker.find? address with
  | none => simp [found] at removed
  | some other =>
    rw [found] at removed
    cases removed
    obtain ⟨present, known⟩ := orderly.find?_known found
    -- The node changes its state when it is no longer registered, but it is still filed.
    have remaining := orderly.erased node.id
    obtain ⟨after, _, _, changed⟩ := transition_spec remaining known .removed
    refine ⟨after, fun factor mapped => ?_, fun subscription faithful =>
      faithful.transition present known .removed List.length_set.symm changed⟩
    have rebuilt : { tracker with
        registered := tracker.registered.erase node.id }.rebuildRing.Mapped factor :=
      mapped_rebuildRing mapped.replicates
    exact rebuilt.transition remaining known .removed

theorem Orderly.marksUp (orderly : tracker.Orderly) (poolState : PoolId → PoolState)
    (address : SocketAddress) :
    tracker.Advances (tracker.markUp poolState address).1 (tracker.markUp poolState address).2.1 := by
  unfold markUp
  cases found : tracker.find? address with
  | none => exact orderly.stays
  | some node =>
    simp only
    split
    next => exact orderly.stays
    next => exact orderly.transits found .up

theorem Orderly.marksDown (orderly : tracker.Orderly) (address : SocketAddress) :
    tracker.Advances (tracker.markDown address).1 (tracker.markDown address).2.1 := by
  unfold markDown
  cases found : tracker.find? address with
  | none => exact orderly.stays
  | some node => exact orderly.transits found .down

theorem Advances.counted {later : Tracker} {events : List NodeEvent}
    (advances : tracker.Advances later events) (applied : Nat) :
    tracker.Advances { later with applied } events where
  orderly := { advances.orderly with }
  mapped factor mapped := { advances.mapped factor mapped with }
  faithful subscription faithful := { advances.faithful subscription faithful with }

theorem Orderly.hearsPool (orderly : tracker.Orderly) (event : PoolEvent) :
    tracker.Advances (tracker.onPoolEvent event).1 (tracker.onPoolEvent event).2 := by
  cases found : tracker.find? event.address with
  | none =>
    have quiet : tracker.onPoolEvent event =
        ({ tracker with applied := tracker.applied + 1 }, []) := by
      cases event <;> simp_all [onPoolEvent, PoolEvent.address]
    rw [quiet]
    exact orderly.stays.counted _
  | some node =>
    have told : tracker.onPoolEvent event =
        ({ (tracker.transition node event.health).1 with
            applied := (tracker.transition node event.health).1.applied + 1 },
          (tracker.transition node event.health).2) := by
      cases event <;> simp_all [onPoolEvent, PoolEvent.address, PoolEvent.health]
    rw [told]
    exact (orderly.transits found event.health).counted _

theorem Orderly.opensPool (orderly : tracker.Orderly) {id : NodeId} {node : Node}
    (known : tracker.node? id = some node) (pool : PoolId) :
    tracker.Advances (tracker.update { node with pool := some pool }) [] := by
  have filed : tracker.node? ({ node with pool := some pool } : Node).id = some node :=
    (orderly.numbered id node known).symm ▸ known
  refine ⟨orderly.update filed rfl, fun factor mapped => mapped.update filed rfl rfl,
    fun subscription faithful => ?_⟩
  rw [Subscription.hear_nil]
  refine faithful.undisturbed List.length_set.symm fun other => ?_
  rw [node?_update filed]
  split
  next same =>
    rw [← same, filed]
    rfl
  next => rfl

end Operations

end Tracker

structure TrackerHistory where
  tracker : Tracker
  listeners : List Subscription := []

namespace TrackerHistory

inductive Action where
  | addNode (contact : ContactPoint)
  | removeNode (address : SocketAddress)
  | markUp (poolState : PoolId → PoolState) (address : SocketAddress)
  | markDown (address : SocketAddress)
  | poolEvent (event : PoolEvent)
  | openPool (node : NodeId) (pool : PoolId)
  | subscribe

def started (config : DriverConfig) : TrackerHistory where
  tracker := .ofConfig config

def tell (history : TrackerHistory) (tracker : Tracker) (events : List NodeEvent) :
    TrackerHistory where
  tracker
  listeners := history.listeners.map fun listener => listener.hear history.tracker events

def act (history : TrackerHistory) : Action → TrackerHistory
  | .addNode contact => history.tell (history.tracker.addNode contact).1 []
  | .removeNode address =>
      match history.tracker.removeNode address with
      | none => history
      | some (tracker, _, events) => history.tell tracker events
  | .markUp poolState address =>
      let (tracker, events, _) := history.tracker.markUp poolState address
      history.tell tracker events
  | .markDown address =>
      let (tracker, events, _) := history.tracker.markDown address
      history.tell tracker events
  | .poolEvent event =>
      let (tracker, events) := history.tracker.onPoolEvent event
      history.tell tracker events
  | .openPool id pool =>
      match history.tracker.node? id with
      | none => history
      | some node =>
          if node.isPoolable ∧ node.pool = none then
            history.tell (history.tracker.update { node with pool := some pool }) []
          else history
  | .subscribe =>
      { history with listeners := history.listeners ++ [{ start := history.tracker }] }

def run (history : TrackerHistory) (actions : List Action) : TrackerHistory :=
  actions.foldl act history

structure Sound (history : TrackerHistory) (factor : Nat) : Prop where
  orderly : history.tracker.Orderly
  mapped : history.tracker.Mapped factor
  faithful : ∀ listener ∈ history.listeners, listener.Faithful history.tracker

section Steps

variable {history : TrackerHistory} {factor : Nat}

theorem Sound.told (sound : history.Sound factor) {tracker : Tracker} {events : List NodeEvent}
    (advances : history.tracker.Advances tracker events) :
    (history.tell tracker events).Sound factor where
  orderly := advances.orderly
  mapped := advances.mapped factor sound.mapped
  faithful listener member := by
    obtain ⟨before, listening, rfl⟩ := List.mem_map.1 member
    exact advances.faithful before (sound.faithful before listening)

theorem act_sound (sound : history.Sound factor) (action : Action) :
    (history.act action).Sound factor := by
  have orderly := sound.orderly
  cases action with
  | addNode contact => exact sound.told (orderly.adds contact)
  | removeNode address =>
    simp only [act]
    split
    next => exact sound
    next removed => exact sound.told (orderly.removes removed)
  | markUp poolState address => exact sound.told (orderly.marksUp poolState address)
  | markDown address => exact sound.told (orderly.marksDown address)
  | poolEvent event => exact sound.told (orderly.hearsPool event)
  | openPool id pool =>
    simp only [act]
    split
    next => exact sound
    next node known =>
      split
      next => exact sound.told (orderly.opensPool known pool)
      next => exact sound
  | subscribe =>
    refine ⟨orderly, sound.mapped, fun listener member => ?_⟩
    rcases List.mem_append.1 member with old | new
    · exact sound.faithful listener old
    · rw [List.mem_singleton.1 new]
      exact .subscribed history.tracker

theorem run_sound (sound : history.Sound factor) (actions : List Action) :
    (history.run actions).Sound factor := by
  induction actions generalizing history with
  | nil => exact sound
  | cons action rest ih => exact ih (act_sound sound action)

end Steps

theorem started_sound (config : DriverConfig) :
    (started config).Sound config.replicationFactor :=
  List.foldlRecOn (motive := fun tracker => Sound { tracker } config.replicationFactor)
    config.contactPoints _ ⟨.empty rfl rfl, ⟨rfl, fun some => absurd rfl some⟩, nofun⟩
    fun _ sound contact _ => ⟨sound.orderly.addNode contact, sound.mapped.addNode contact, nofun⟩

/-- Replaying what a listener heard leads to the present state of each node, and there are no two
present nodes at one address; the ring is that of the present nodes. -/
theorem changes_replayed (config : DriverConfig) (actions : List Action) :
    let history := (started config).run actions
    let tracker := history.tracker
    (∀ listener ∈ history.listeners,
      (∀ entry ∈ listener.heard, ∃ id node, entry.1 = some id ∧ tracker.node? id = some node ∧
        entry.2.node = node.address) ∧
      ∀ id node, tracker.node? id = some node →
        Replay (listener.startOf id) (listener.eventsOf id) node.state) ∧
      (tracker.present.map (·.address)).Nodup ∧
      (tracker.nodes ≠ [] → tracker.ring = .ofNodes
        (tracker.present.map fun node => (node.address, node.tokens)) config.replicationFactor) := by
  intro history tracker
  have sound := run_sound (started_sound config) actions
  refine ⟨fun listener member => ?_, sound.orderly.addresses_nodup, sound.mapped.current⟩
  have faithful := sound.faithful listener member
  exact ⟨faithful.named, faithful.replays⟩

def readded : List Action :=
  [.subscribe, .poolEvent (.up (.v4 1 9042)), .removeNode (.v4 1 9042),
    .addNode ⟨.v4 1 9042, none, [7]⟩, .markDown (.v4 1 9042)]

theorem readded_replayed :
    let history := (started { contactPoints := [⟨.v4 1 9042, none, []⟩] }).run readded
    ∃ listener ∈ history.listeners,
      listener.eventsOf 0 = [⟨.v4 1 9042, .unknown, .up⟩, ⟨.v4 1 9042, .up, .removed⟩] ∧
      Replay .unknown (listener.eventsOf 0) .removed ∧
      listener.eventsOf 1 = [⟨.v4 1 9042, .unknown, .down⟩] ∧
      Replay .unknown (listener.eventsOf 1) .down ∧
      history.tracker.ring = .ofNodes [(.v4 1 9042, [7])] 1 := by
  intro history
  obtain ⟨listened, _, mapped⟩ :=
    changes_replayed { contactPoints := [⟨.v4 1 9042, none, []⟩] } readded
  obtain ⟨listener, member, first, second, firstStart, secondStart⟩ :
      ∃ listener ∈ history.listeners,
        listener.eventsOf 0 = [⟨.v4 1 9042, .unknown, .up⟩, ⟨.v4 1 9042, .up, .removed⟩] ∧
        listener.eventsOf 1 = [⟨.v4 1 9042, .unknown, .down⟩] ∧
        listener.startOf 0 = .unknown ∧ listener.startOf 1 = .unknown := by decide
  obtain ⟨old, knownOld, removed⟩ :
      ∃ node, history.tracker.node? 0 = some node ∧ node.state = .removed := ⟨_, rfl, rfl⟩
  obtain ⟨new, knownNew, down⟩ :
      ∃ node, history.tracker.node? 1 = some node ∧ node.state = .down := ⟨_, rfl, rfl⟩
  obtain ⟨_, replays⟩ := listened listener member
  refine ⟨listener, member, first, ?_, second, ?_, mapped (by decide)⟩
  · rw [← firstStart, ← removed]
    exact replays 0 old knownOld
  · rw [← secondStart, ← down]
    exact replays 1 new knownNew

end TrackerHistory

end ClusterDriver
