import ClusterDriver.Proofs.Cluster.Subscriptions
import ClusterDriver.Proofs.Token.Ring

set_option autoImplicit false

namespace ClusterDriver

theorem eraseDups_filter {α : Type} [DecidableEq α] (keep : α → Bool) :
    ∀ values : List α, (values.filter keep).eraseDups = values.eraseDups.filter keep
  | [] => rfl
  | value :: rest => by
    have later := eraseDups_filter keep (rest.filter (!· == value))
    rw [List.eraseDups_cons]
    by_cases kept : keep value
    · rw [List.filter_cons_of_pos kept, List.filter_cons_of_pos kept, List.eraseDups_cons, ← later,
        List.filter_filter, List.filter_filter]
      simp only [Bool.and_comm]
    · -- What is kept differs from this value anyway.
      have same : (rest.filter (!· == value)).filter keep = rest.filter keep := by
        rw [List.filter_filter]
        refine List.filter_congr fun other _ => ?_
        by_cases alike : other = value
        · simp [alike, kept]
        · simp [alike]
      rw [List.filter_cons_of_neg kept, List.filter_cons_of_neg kept, ← later, same]
termination_by values => values.length
decreasing_by exact Nat.lt_succ_of_le (List.length_filter_le _ _)

namespace TokenRing

def without (nodes : List (SocketAddress × List Int64)) (gone : SocketAddress) :
    List (SocketAddress × List Int64) :=
  nodes.filter (·.1 ≠ gone)

/-- No token belongs to nodes at two addresses. -/
def Unshared (nodes : List (SocketAddress × List Int64)) : Prop :=
  ∀ first second token, Owns nodes first token → Owns nodes second token → first = second

def Reordered (nodes others : List (SocketAddress × List Int64)) : Prop :=
  ∃ shuffled, nodes.Perm shuffled ∧
    List.Forall₂ (fun node other => node.1 = other.1 ∧ node.2.Perm other.2) shuffled others

section Nodes

variable {nodes others : List (SocketAddress × List Int64)} {gone : SocketAddress}

theorem owns_without {owner : SocketAddress} {token : Int64} :
    Owns (without nodes gone) owner token ↔ Owns nodes owner token ∧ owner ≠ gone := by
  simp only [Owns, without, List.mem_filter, decide_eq_true_eq]
  constructor
  · rintro ⟨tokens, ⟨known, other⟩, member⟩
    exact ⟨⟨tokens, known, member⟩, other⟩
  · rintro ⟨⟨tokens, known, member⟩, other⟩
    exact ⟨tokens, ⟨known, other⟩, member⟩

theorem unshared_of_nodup (distinct : (nodes.flatMap (·.2)).Nodup) : Unshared nodes := by
  rintro first second token ⟨tokens, known, member⟩ ⟨others, otherKnown, otherMember⟩
  have apart := (List.nodup_flatMap.1 distinct).2
  have both : Std.Symm (Function.onFun List.Disjoint
      fun node : SocketAddress × List Int64 => node.2) :=
    ⟨fun _ _ disjoint => disjoint.symm⟩
  by_contra different
  refine apart.forall known otherKnown ?_ member otherMember
  exact fun same => different (congrArg Prod.fst same)

theorem Reordered.owns (reordered : Reordered nodes others) {owner : SocketAddress}
    {token : Int64} :
    Owns nodes owner token ↔ Owns others owner token := by
  obtain ⟨shuffled, perm, matched⟩ := reordered
  have moved : Owns nodes owner token ↔ Owns shuffled owner token := by
    simp only [Owns, perm.mem_iff]
  rw [moved]
  clear perm moved
  -- Node by node, the tokens are the same.
  induction matched with
  | nil => exact Iff.rfl
  | @cons node other rest otherRest alike _ ih =>
    have first : (∃ tokens, (owner, tokens) = node ∧ token ∈ tokens) ↔
        ∃ tokens, (owner, tokens) = other ∧ token ∈ tokens := by
      obtain ⟨address, tokens⟩ := node
      obtain ⟨otherAddress, otherTokens⟩ := other
      obtain ⟨rfl, same⟩ := alike
      simp [same.mem_iff]
    simp only [Owns, List.mem_cons, or_and_right, exists_or] at ih ⊢
    exact or_congr first ih

theorem ofNodes_congr (same : ∀ owner token, Owns nodes owner token ↔ Owns others owner token)
    (factor : Nat) : ofNodes nodes factor = ofNodes others factor := by
  have maps := maps_ofNodes nodes factor
  have otherMaps := maps_ofNodes others factor
  have entries : (ofNodes nodes factor).entries = (ofNodes others factor).entries := by
    refine eq_of_increasing maps.increasing otherMaps.increasing fun entry => ?_
    simp only [maps.mem_entries, otherMaps.mem_entries, same]
  exact congrArg (TokenRing.mk · (max factor 1)) entries

theorem entries_without (unshared : Unshared nodes) (gone : SocketAddress) (factor all : Nat) :
    (ofNodes (without nodes gone) factor).entries =
      (ofNodes nodes all).entries.filter (·.owner ≠ gone) := by
  have maps := maps_ofNodes nodes all
  have rest := maps_ofNodes (without nodes gone) factor
  refine eq_of_increasing rest.increasing (maps.increasing.filter _) fun entry => ?_
  simp only [List.mem_filter, rest.mem_entries, maps.mem_entries, owns_without, decide_eq_true_eq]
  constructor
  · rintro ⟨⟨owns, other⟩, _⟩
    -- Nobody else has the token, so this owner has always been the lowest.
    have lowest (second) (shares : Owns nodes second entry.token) :
        entry.owner.rank ≤ second.rank :=
      Nat.le_of_eq (congrArg _ (unshared _ _ _ owns shares))
    exact ⟨⟨owns, lowest⟩, other⟩
  · rintro ⟨⟨owns, lowest⟩, other⟩
    exact ⟨⟨owns, other⟩, fun second shares => lowest second shares.1⟩

theorem clockwise_without (unshared : Unshared nodes) (gone : SocketAddress) (factor all : Nat)
    (token : Int64) :
    (ofNodes (without nodes gone) factor).clockwise token =
      ((ofNodes nodes all).clockwise token).filter (· ≠ gone) := by
  obtain ⟨front, back⟩ := split_at_token (maps_ofNodes nodes all).increasing token
  obtain ⟨frontRest, backRest⟩ :=
    split_at_token (maps_ofNodes (without nodes gone) factor).increasing token
  rw [clockwise, clockwise, front, back, frontRest, backRest,
    entries_without unshared gone factor all]
  simp only [List.filter_map, List.filter_append, List.filter_filter, Function.comp_def,
    Bool.and_comm]

theorem length_owners_le (nodes : List (SocketAddress × List Int64)) (all : Nat) (token : Int64) :
    ((ofNodes nodes all).clockwise token).eraseDups.length ≤ nodes.length := by
  have known : ((ofNodes nodes all).clockwise token).eraseDups ⊆ nodes.map (·.1) := by
    intro owner member
    rw [List.mem_eraseDups, clockwise, List.mem_map] at member
    obtain ⟨entry, place, rfl⟩ := member
    have inside : entry ∈ (ofNodes nodes all).entries := by
      rcases List.mem_append.1 place with back | front
      · exact (List.dropWhile_sublist _).subset back
      · exact (List.takeWhile_sublist _).subset front
    obtain ⟨tokens, listed, _⟩ := ((maps_ofNodes nodes all).lowest entry inside).1
    exact List.mem_map.2 ⟨_, listed, rfl⟩
  calc ((ofNodes nodes all).clockwise token).eraseDups.length
      ≤ (nodes.map (·.1)).length := (List.subperm_of_subset (nodup_eraseDups _) known).length_le
    _ = nodes.length := List.length_map ..

theorem replicas_without (unshared : Unshared nodes) (gone : SocketAddress) {factor all : Nat}
    (positive : 1 ≤ factor) (enough : nodes.length ≤ all) (token : Int64) :
    (ofNodes (without nodes gone) factor).replicas token =
      (((ofNodes nodes all).replicas token).filter (· ≠ gone)).take factor := by
  have whole : (ofNodes nodes all).replicas token =
      ((ofNodes nodes all).clockwise token).eraseDups := by
    apply List.take_of_length_le
    have := length_owners_le nodes all token
    show _ ≤ max all 1
    omega
  have count : (ofNodes (without nodes gone) factor).replicationFactor = factor :=
    Nat.max_eq_left positive
  rw [whole, ← eraseDups_filter, ← clockwise_without unshared gone factor all, replicas, count]

theorem filter_replicas_prefix (unshared : Unshared nodes) (gone : SocketAddress) (factor : Nat)
    (token : Int64) :
    ((ofNodes nodes factor).replicas token).filter (· ≠ gone) <+:
      (ofNodes (without nodes gone) factor).replicas token := by
  rw [replicas, replicas, clockwise_without unshared gone factor factor, eraseDups_filter]
  refine List.prefix_take_iff.2 ⟨(List.take_prefix _ _).filter _, ?_⟩
  exact (List.length_filter_le _ _).trans (List.length_take_le _ _)

end Nodes

end TokenRing

namespace Tracker

def tokenLists (tracker : Tracker) : List (SocketAddress × List Int64) :=
  tracker.present.map fun node => (node.address, node.tokens)

theorem ring_removeNode {tracker after : Tracker} {gone : SocketAddress} {node : Node}
    {events : List NodeEvent} (orderly : tracker.Orderly)
    (removed : tracker.removeNode gone = some (after, node, events)) :
    tracker.nodes ≠ [] ∧ after.ring =
      .ofNodes (TokenRing.without tracker.tokenLists gone) tracker.replicationFactor := by
  unfold removeNode at removed
  cases found : tracker.find? gone with
  | none => simp [found] at removed
  | some other =>
    rw [found] at removed
    cases removed
    obtain ⟨address, id, registered, known⟩ := find?_some found
    obtain rfl := orderly.numbered id node known
    have rest : (tracker.registered.erase node.id).filterMap tracker.node? =
        tracker.present.filter (·.address ≠ gone) := by
      rw [orderly.distinct.erase_eq_filter, present, List.filterMap_filter, List.filter_filterMap]
      refine List.filterMap_congr fun second member => ?_
      by_cases same : second = node.id
      · simp [same, known, address, Option.filter]
      · cases knownSecond : tracker.node? second with
        | none => simp
        | some other =>
          -- Present nodes have different addresses.
          have elsewhere : other.address ≠ gone := fun alike =>
            same (orderly.apart second member node.id registered (by
              simp [holding?, known, knownSecond, address, alike]))
          simp [same, elsewhere, Option.filter]
    refine ⟨List.ne_nil_of_length_pos (Nat.zero_lt_of_lt (node?_lt known)), ?_⟩
    show TokenRing.ofNodes
      (List.map _ ((tracker.registered.erase node.id).filterMap tracker.node?)) _ = _
    rw [rest, TokenRing.without, tokenLists, List.filter_map]
    rfl

end Tracker

namespace TokenRing

/-- Without a node, the replicas of a token are those among all nodes apart from it, as many as the
factor asks for; whatever order the nodes are listed in, the ring is the same. When a tracker of
these nodes loses one, the replicas that stay keep their order and others follow on them. -/
theorem removal_keeps_order (nodes : List (SocketAddress × List Int64)) :
    (∀ factor token, (ofNodes nodes factor).replicas? token = none ↔
      (∃ owner token, Owns nodes owner token) ∧ maxReserved < factor) ∧
    (Unshared nodes → ∀ gone factor all token replicas full,
      1 ≤ factor → nodes.length ≤ all →
      (ofNodes (without nodes gone) factor).replicas? token = some replicas →
      (ofNodes nodes all).replicas? token = some full →
      replicas = (full.filter (· ≠ gone)).take factor) ∧
    (∀ others, Reordered nodes others → ∀ factor, ofNodes others factor = ofNodes nodes factor) ∧
    ∀ (config : DriverConfig) (actions : List TrackerHistory.Action),
      let tracker := ((TrackerHistory.started config).run actions).tracker
      tracker.tokenLists = nodes → Unshared nodes → ∀ gone after node events,
      tracker.removeNode gone = some (after, node, events) →
      ∀ token old new, tracker.ring.replicas? token = some old →
        after.ring.replicas? token = some new → old.filter (· ≠ gone) <+: new := by
  refine ⟨fun factor token => replicas?_ofNodes_eq_none_iff, ?_, ?_, ?_⟩
  · intro unshared gone factor all token replicas full positive enough found known
    obtain ⟨_, rfl⟩ := replicas?_eq_some_iff.1 found
    obtain ⟨_, rfl⟩ := replicas?_eq_some_iff.1 known
    exact replicas_without unshared gone positive enough token
  · intro others reordered factor
    exact (ofNodes_congr (fun owner token => reordered.owns) factor).symm
  · intro config actions tracker lists unshared gone after node events removed token old new found
      known
    have sound := TrackerHistory.run_sound (TrackerHistory.started_sound config) actions
    obtain ⟨some, ring⟩ := Tracker.ring_removeNode sound.orderly removed
    have current : tracker.ring = ofNodes nodes config.replicationFactor := by
      rw [← lists]
      exact sound.mapped.current some
    have later : after.ring = ofNodes (without nodes gone) config.replicationFactor := by
      rw [ring, sound.mapped.replicates, ← lists]
    obtain ⟨_, rfl⟩ := replicas?_eq_some_iff.1 found
    obtain ⟨_, rfl⟩ := replicas?_eq_some_iff.1 known
    rw [current, later]
    exact filter_replicas_prefix unshared gone _ token

def spread : DriverConfig where
  contactPoints := [⟨.v4 0x0A000001 9042, none, [-100, 200]⟩, ⟨.v4 0x0A000002 9042, none, [0]⟩,
    ⟨.v4 0x0A000003 9042, none, [100]⟩]
  replicationFactor := 2

theorem spread_keeps_order :
    let nodes := [(.v4 0x0A000001 9042, [-100, 200]), (.v4 0x0A000002 9042, [0]),
      (.v4 0x0A000003 9042, [100])]
    let full := [.v4 0x0A000001 9042, .v4 0x0A000002 9042, .v4 0x0A000003 9042]
    let tracker := ((TrackerHistory.started spread).run [.markDown (.v4 0x0A000002 9042)]).tracker
    (ofNodes nodes 3).replicas? 150 = some full ∧
      (ofNodes (without nodes (.v4 0x0A000001 9042)) 1).replicas? 150 =
        some ((full.filter (· ≠ .v4 0x0A000001 9042)).take 1) ∧
      ofNodes [(.v4 0x0A000003 9042, [100]), (.v4 0x0A000001 9042, [200, -100]),
        (.v4 0x0A000002 9042, [0])] 2 = ofNodes nodes 2 ∧
      tracker.ring.replicas? 150 = some (full.take 2) ∧
      ∃ after node events new, tracker.removeNode (.v4 0x0A000001 9042) =
          some (after, node, events) ∧ after.ring.replicas? 150 = some new ∧
        [.v4 0x0A000002 9042] <+: new := by
  intro nodes full tracker
  obtain ⟨_, removes, reorders, tracks⟩ := removal_keeps_order nodes
  have known : (ofNodes nodes 3).replicas? 150 = some full := by cbv
  have found : (ofNodes (without nodes (.v4 0x0A000001 9042)) 1).replicas? 150 =
      some [.v4 0x0A000002 9042] := by cbv
  have old : tracker.ring.replicas? 150 = some (full.take 2) := by cbv
  have lists : tracker.tokenLists = nodes := by rfl
  have unshared : Unshared nodes := unshared_of_nodup (by decide)
  have reordered : Reordered nodes [(.v4 0x0A000003 9042, [100]),
      (.v4 0x0A000001 9042, [200, -100]), (.v4 0x0A000002 9042, [0])] :=
    ⟨[(.v4 0x0A000003 9042, [100]), (.v4 0x0A000001 9042, [-100, 200]), (.v4 0x0A000002 9042, [0])],
      by decide, by decide⟩
  refine ⟨known, ?_, reorders _ reordered 2, old, ?_⟩
  · rw [found, removes unshared _ 1 3 150 _ _ (by decide) (by decide) found known]
  · obtain ⟨⟨after, node, events⟩, removed⟩ :
        ∃ left, tracker.removeNode (.v4 0x0A000001 9042) = some left := ⟨_, rfl⟩
    have sound := TrackerHistory.run_sound (TrackerHistory.started_sound spread)
      [.markDown (.v4 0x0A000002 9042)]
    have new : after.ring.replicas? 150 = some [.v4 0x0A000002 9042, .v4 0x0A000003 9042] := by
      rw [(Tracker.ring_removeNode sound.orderly removed).2, lists]
      cbv
    exact ⟨after, node, events, _, removed, new,
      tracks spread _ lists unshared _ _ _ _ removed 150 _ _ old new⟩

theorem immense_factor_keeps_nobody :
    let nodes := [(.v4 0x7F000001 9042, [0]), (.v4 0x7F000002 9042, [10])]
    let factor := 0x1000000000000000
    Unshared nodes ∧ ¬∃ replicas full,
      (ofNodes (without nodes (.v4 0x7F000002 9042)) factor).replicas? 0 = some replicas ∧
      (ofNodes nodes 2).replicas? 0 = some full ∧
      replicas = (full.filter (· ≠ .v4 0x7F000002 9042)).take factor := by
  intro nodes factor
  have none : (ofNodes (without nodes (.v4 0x7F000002 9042)) factor).replicas? 0 = none :=
    replicas?_ofNodes_eq_none_iff.2
      ⟨⟨.v4 0x7F000001 9042, 0, [0], by decide, List.mem_singleton.2 rfl⟩, by decide⟩
  refine ⟨unshared_of_nodup (by decide), ?_⟩
  rintro ⟨replicas, _, found, _⟩
  rw [none] at found
  cases found

end TokenRing

end ClusterDriver
