import ClusterDriver.Cluster.Plan
import Mathlib.Data.List.Nodup
import Mathlib.Data.List.Rotate

set_option autoImplicit false

namespace ClusterDriver

theorem nodup_eraseDups {α : Type} [DecidableEq α] : ∀ values : List α, values.eraseDups.Nodup
  | [] => List.nodup_nil
  | value :: rest => by
    rw [List.eraseDups_cons, List.nodup_cons, List.mem_eraseDups]
    exact ⟨by simp, nodup_eraseDups _⟩
termination_by values => values.length
decreasing_by exact Nat.lt_succ_of_le (List.length_filter_le _ _)

theorem TokenRing.nodup_replicas (ring : TokenRing) (token : Int64) :
    (ring.replicas token).Nodup :=
  (nodup_eraseDups _).sublist (List.take_sublist _ _)

namespace Node

theorem isQueryable_iff {node : Node} :
    node.isQueryable = true ↔
      (node.state = .unknown ∨ node.state = .up) ∧ node.distance ≠ .ignored := by
  simp [Node.isQueryable, and_comm]

theorem distance_of_isQueryable {node : Node} (queryable : node.isQueryable = true) :
    node.distance = .near ∨ node.distance = .remote := by
  have kept := (isQueryable_iff.1 queryable).2
  cases place : node.distance with
  | near => exact .inl rfl
  | remote => exact .inr rfl
  | ignored => exact absurd place kept

end Node

namespace Plan

inductive Yields : Plan → List Node → Prop where
  | exhausted {plan : Plan} (empty : plan.next? = none) : Yields plan []
  | taken {plan rest : Plan} {node : Node} {nodes : List Node}
      (next : plan.next? = some (node, rest)) (more : Yields rest nodes) :
      Yields plan (node :: nodes)

theorem yields_iff {plan : Plan} {nodes : List Node} :
    plan.Yields nodes ↔ nodes = plan.remaining := by
  obtain ⟨remaining⟩ := plan
  induction remaining generalizing nodes with
  | nil =>
    constructor
    · rintro (_ | ⟨next, _⟩)
      · rfl
      · cases next
    · rintro rfl
      exact .exhausted rfl
  | cons first rest ih =>
    constructor
    · rintro (empty | ⟨next, more⟩)
      · cases empty
      · cases next
        exact congrArg (first :: ·) (ih.1 more)
    · rintro rfl
      exact .taken rfl (ih.2 rfl)

end Plan

namespace RoundRobin

theorem rotated_eq (count : Nat) (nodes : List Node) :
    rotated count nodes = nodes.rotate count := by
  match nodes with
  | [] => rfl
  | [node] => exact (List.rotate_singleton node count).symm
  | first :: second :: rest =>
    rw [List.rotate_eq_drop_append_take_mod]
    simp [rotated, List.rotateLeft]

def candidates (nodes : List Node) (distance : Distance) : List Node :=
  nodes.filter fun node => node.isQueryable ∧ node.distance = distance

def chosen (nodes : List Node) (replicas : List SocketAddress) (distance : Distance) : List Node :=
  replicasAt (nodes.filter Node.isQueryable) replicas distance

def others (nodes : List Node) (replicas : List SocketAddress) (distance : Distance) : List Node :=
  (candidates nodes distance).filter fun node => node.address ∉ replicas

/-- The nodes at the given addresses, in the order of the addresses. -/
structure Picks (nodes : List Node) (addresses : List SocketAddress) (picked : List Node) :
    Prop where
  known : picked ⊆ nodes
  ordered : picked.map (·.address) = addresses.filter (· ∈ nodes.map (·.address))

theorem Picks.nodup {nodes : List Node} {addresses : List SocketAddress} {picked : List Node}
    (picks : Picks nodes addresses picked) (distinct : addresses.Nodup) : picked.Nodup :=
  .of_map _ (picks.ordered ▸ distinct.filter _)

theorem mem_candidates {nodes : List Node} {distance : Distance} {node : Node} :
    node ∈ candidates nodes distance ↔
      node ∈ nodes ∧ node.isQueryable = true ∧ node.distance = distance := by
  simp [candidates]

section Order

variable {nodes : List Node} {distance : Distance} {replicas : List SocketAddress} {node : Node}

theorem find?_candidate (apart : (nodes.map (·.address)).Nodup) {address : SocketAddress} :
    (nodes.filter Node.isQueryable).find?
        (fun node => node.address = address ∧ node.distance = distance) = some node ↔
      node ∈ candidates nodes distance ∧ node.address = address := by
  constructor
  · intro found
    have holds := List.find?_some found
    have member := List.mem_filter.1 (List.mem_of_find?_eq_some found)
    simp only [decide_eq_true_eq] at holds
    exact ⟨mem_candidates.2 ⟨member.1, member.2, holds.2⟩, holds.1⟩
  · rintro ⟨member, rfl⟩
    obtain ⟨known, queryable, place⟩ := mem_candidates.1 member
    cases found : (nodes.filter Node.isQueryable).find?
        (fun other => other.address = node.address ∧ other.distance = distance) with
    | none =>
      have missing := List.find?_eq_none.1 found node (List.mem_filter.2 ⟨known, queryable⟩)
      simp [place] at missing
    | some other =>
      have same := List.find?_some found
      simp only [decide_eq_true_eq] at same
      have present := (List.mem_filter.1 (List.mem_of_find?_eq_some found)).1
      rw [List.inj_on_of_nodup_map apart present known same.1]

theorem mem_chosen (apart : (nodes.map (·.address)).Nodup) :
    node ∈ chosen nodes replicas distance ↔
      node ∈ candidates nodes distance ∧ node.address ∈ replicas := by
  simp only [chosen, replicasAt, List.mem_filterMap, find?_candidate apart]
  constructor
  · rintro ⟨address, replica, member, rfl⟩
    exact ⟨member, replica⟩
  · rintro ⟨member, replica⟩
    exact ⟨_, replica, member, rfl⟩

theorem picks_chosen (apart : (nodes.map (·.address)).Nodup) :
    Picks (candidates nodes distance) replicas (chosen nodes replicas distance) where
  known _ member := ((mem_chosen apart).1 member).1
  ordered := by
    rw [chosen, replicasAt, List.map_filterMap]
    refine (List.filterMap_congr fun address _ => ?_).trans
      (congrFun (List.filterMap_eq_filter ..) replicas)
    cases found : (nodes.filter Node.isQueryable).find?
        (fun node => node.address = address ∧ node.distance = distance) with
    | none =>
      have missing : address ∉ (candidates nodes distance).map (·.address) := by
        intro member
        obtain ⟨node, candidate, same⟩ := List.mem_map.1 member
        cases found.symm.trans ((find?_candidate apart).2 ⟨candidate, same⟩)
      simp [Option.guard, missing]
    | some node =>
      obtain ⟨candidate, same⟩ := (find?_candidate apart).1 found
      have member : address ∈ (candidates nodes distance).map (·.address) :=
        same ▸ List.mem_map_of_mem candidate
      simp only [Option.map_some, same, Option.guard, member, decide_true, if_true]

theorem placed_iff (apart : (nodes.map (·.address)).Nodup) (known : node ∈ nodes)
    (queryable : node.isQueryable = true) :
    node.address ∈ (chosen nodes replicas .near ++ chosen nodes replicas .remote).map (·.address) ↔
      node.address ∈ replicas := by
  constructor
  · intro member
    obtain ⟨other, found, same⟩ := List.mem_map.1 member
    rw [← same]
    rcases List.mem_append.1 found with near | remote
    · exact ((mem_chosen apart).1 near).2
    · exact ((mem_chosen apart).1 remote).2
  · intro replica
    refine List.mem_map_of_mem (List.mem_append.2 ?_)
    rcases Node.distance_of_isQueryable queryable with near | remote
    · exact .inl ((mem_chosen apart).2 ⟨mem_candidates.2 ⟨known, queryable, near⟩, replica⟩)
    · exact .inr ((mem_chosen apart).2 ⟨mem_candidates.2 ⟨known, queryable, remote⟩, replica⟩)

theorem othersAt_eq (apart : (nodes.map (·.address)).Nodup) (robin : RoundRobin)
    (replicas : List SocketAddress) (distance : Distance) :
    robin.othersAt (nodes.filter Node.isQueryable)
        (chosen nodes replicas .near ++ chosen nodes replicas .remote) distance =
      (others nodes replicas distance).rotate robin.cursor := by
  rw [othersAt, rotated_eq, others, candidates, List.filter_filter, List.filter_filter]
  congr 1
  refine List.filter_congr fun node known => ?_
  cases queryable : node.isQueryable with
  | false => simp
  | true =>
    simp only [placed_iff apart known queryable, Bool.decide_and, true_and, Bool.and_true]
    exact Bool.and_comm ..

theorem arrange_remaining (apart : (nodes.map (·.address)).Nodup) (robin : RoundRobin)
    (replicas : List SocketAddress) :
    (robin.arrange nodes replicas).remaining =
      chosen nodes replicas .near ++ chosen nodes replicas .remote ++
        (others nodes replicas .near).rotate robin.cursor ++
        (others nodes replicas .remote).rotate robin.cursor := by
  rw [← othersAt_eq apart, ← othersAt_eq apart]
  rfl

theorem placed_perm (apart : (nodes.map (·.address)).Nodup) (distinct : replicas.Nodup) :
    (chosen nodes replicas distance ++ others nodes replicas distance).Perm
      (candidates nodes distance) := by
  have different : (candidates nodes distance).Nodup := (List.Nodup.of_map _ apart).filter _
  have once : (chosen nodes replicas distance).Nodup := (picks_chosen apart).nodup distinct
  have same : (chosen nodes replicas distance).Perm
      ((candidates nodes distance).filter fun node => node.address ∈ replicas) := by
    rw [List.perm_ext_iff_of_nodup once (different.filter _)]
    intro node
    simp [mem_chosen apart]
  refine (same.append_right _).trans ?_
  simpa [others] using List.filter_append_perm (fun node : Node => decide (node.address ∈ replicas))
    (candidates nodes distance)

theorem candidates_perm (nodes : List Node) :
    (candidates nodes .near ++ candidates nodes .remote).Perm
      (nodes.filter Node.isQueryable) := by
  have remote : candidates nodes .remote = (nodes.filter Node.isQueryable).filter
      fun node => !decide (node.distance = .near) := by
    rw [candidates, List.filter_filter]
    refine List.filter_congr fun node _ => ?_
    cases queryable : node.isQueryable with
    | false => simp
    | true => rcases Node.distance_of_isQueryable queryable with place | place <;> simp [place]
  have near : candidates nodes .near = (nodes.filter Node.isQueryable).filter
      fun node => decide (node.distance = .near) := by
    simp [candidates, List.filter_filter, and_comm]
  rw [near, remote]
  exact List.filter_append_perm _ _

theorem arrange_perm (apart : (nodes.map (·.address)).Nodup) (robin : RoundRobin)
    (distinct : replicas.Nodup) :
    (robin.arrange nodes replicas).remaining.Perm (nodes.filter Node.isQueryable) := by
  rw [arrange_remaining apart]
  refine .trans ?_ (candidates_perm nodes)
  -- Each group of replicas goes together with the others at its distance.
  refine .trans ?_ ((placed_perm apart distinct).append (placed_perm apart distinct))
  refine ((List.rotate_perm ..).append_left _ |>.append (List.rotate_perm ..)).trans ?_
  simp only [List.append_assoc]
  exact (List.perm_append_comm_assoc ..).append_left _

theorem replicasFor?_eq_none_iff {ring : TokenRing} {key : Option ByteArray} :
    replicasFor? ring key = none ↔
      key ≠ none ∧ ring.entries ≠ [] ∧ TokenRing.maxReserved < ring.replicationFactor := by
  cases key with
  | none => simp [replicasFor?]
  | some key =>
    simp [replicasFor?, TokenRing.replicasOfKey?, TokenRing.replicas?, TokenRing.canReserve,
      TokenRing.isEmpty]

theorem nodup_replicasFor? {ring : TokenRing} {key : Option ByteArray}
    (found : replicasFor? ring key = some replicas) : replicas.Nodup := by
  cases key with
  | none =>
    cases found
    exact List.nodup_nil
  | some key =>
    simp only [replicasFor?, TokenRing.replicasOfKey?, TokenRing.replicas?] at found
    split at found
    next =>
      cases found
      exact ring.nodup_replicas _
    next => cases found

end Order

/-- A plan gives the queryable nodes, each once: first the replicas of the key in the order of the
ring, near by and then remote; then the others near by and at last the remote ones, both turned by
the cursor. There is none exactly if there is a key, somebody owns a token and the factor is
immense. -/
theorem plan_yields (nodes : List Node) (apart : (nodes.map (·.address)).Nodup)
    (robin : RoundRobin) (key : Option ByteArray) (ring : TokenRing) :
    (robin.plan? key nodes ring = none ↔
      key ≠ none ∧ ring.entries ≠ [] ∧ TokenRing.maxReserved < ring.replicationFactor) ∧
    ∀ plan, robin.plan? key nodes ring = some plan →
      ∃ (replicas : List SocketAddress) (nearReplicas remoteReplicas order : List Node),
        replicasFor? ring key = some replicas ∧
        (∀ yielded, plan.Yields yielded ↔ yielded = order) ∧
        order = nearReplicas ++ remoteReplicas ++
          (others nodes replicas .near).rotate robin.cursor ++
          (others nodes replicas .remote).rotate robin.cursor ∧
        Picks (candidates nodes .near) replicas nearReplicas ∧
        Picks (candidates nodes .remote) replicas remoteReplicas ∧
        (key = none → nearReplicas = [] ∧ remoteReplicas = []) ∧
        (order.map (·.address)).Nodup ∧
        ∀ node, node ∈ order ↔
          node ∈ nodes ∧ (node.state = .unknown ∨ node.state = .up) ∧
            node.distance ≠ .ignored := by
  refine ⟨Option.map_eq_none_iff.trans replicasFor?_eq_none_iff, fun plan made => ?_⟩
  obtain ⟨replicas, found, rfl⟩ := Option.map_eq_some_iff.1 made
  have all := arrange_perm apart robin (nodup_replicasFor? found)
  refine ⟨replicas, _, _, _, found, fun yielded => Plan.yields_iff,
    arrange_remaining apart robin replicas, picks_chosen apart, picks_chosen apart, ?_, ?_,
    fun node => ?_⟩
  · rintro rfl
    cases found
    exact ⟨rfl, rfl⟩
  · exact (all.map _).nodup_iff.2 (apart.sublist (List.filter_sublist.map _))
  · rw [all.mem_iff, List.mem_filter, Node.isQueryable_iff]

def listed : List Node :=
  [⟨0, .v4 0 1, none, [], .near, .up, none⟩, ⟨1, .v4 0 2, none, [], .remote, .up, none⟩,
    ⟨2, .v4 0 3, none, [], .near, .unknown, none⟩, ⟨3, .v4 0 4, none, [], .near, .down, none⟩,
    ⟨4, .v4 0 5, none, [], .ignored, .up, none⟩, ⟨5, .v4 0 6, none, [], .remote, .unknown, none⟩,
    ⟨6, .v4 0 7, none, [], .near, .up, none⟩]

def owned : TokenRing where
  entries := [⟨-1, .v4 0 1⟩, ⟨1, .v4 0 6⟩, ⟨2, .v4 0 4⟩, ⟨3, .v4 0 9⟩, ⟨4, .v4 0 5⟩, ⟨5, .v4 0 3⟩]
  replicationFactor := 5

theorem replicas_owned : replicasFor? owned (some ByteArray.empty) =
    some [.v4 0 6, .v4 0 4, .v4 0 9, .v4 0 5, .v4 0 3] := by
  have token : Token.Murmur.token [] = 0 := by
    rw [Token.Murmur.token, Token.Murmur.hash, Token.Murmur.mixAll]
    decide
  show owned.replicas? (Token.Murmur.token []) = _
  rw [token]
  decide

theorem listed_plan_yields :
    (((⟨3⟩ : RoundRobin).plan? (some ByteArray.empty) listed owned).map fun plan =>
        plan.remaining.map (·.address)) =
      some [.v4 0 3, .v4 0 6, .v4 0 7, .v4 0 1, .v4 0 2] := by
  obtain ⟨_, yields⟩ :=
    plan_yields listed (by decide) ⟨3⟩ (some ByteArray.empty) owned
  have made : (⟨3⟩ : RoundRobin).plan? (some ByteArray.empty) listed owned = some _ :=
    congrArg (Option.map _) replicas_owned
  obtain ⟨replicas, nearReplicas, remoteReplicas, order, found, all, ordered, nearPicks,
    remotePicks, -⟩ := yields _ made
  obtain rfl := Option.some.inj (replicas_owned.symm.trans found)
  rw [made, Option.map_some, (all _).1 (Plan.yields_iff.2 rfl), ordered]
  simp only [List.map_append, nearPicks.ordered, remotePicks.ordered]
  decide

theorem immense_factor_plans_nothing :
    let node : Node := ⟨0, .v4 0x7F000001 9042, none, [0], .near, .unknown, none⟩
    let ring := TokenRing.ofNodes [(node.address, node.tokens)] 0x1000000000000000
    node.isQueryable = true ∧
      ¬∃ plan, ({} : RoundRobin).plan? (some ⟨#[0]⟩) [node] ring = some plan ∧
        plan.Yields [node] := by
  intro node ring
  have entries : ring.entries = [⟨0, node.address⟩] := by
    simp [ring, node, TokenRing.ofNodes, TokenRing.keepFirst, TokenRing.place]
  have none : ({} : RoundRobin).plan? (some ⟨#[0]⟩) [node] ring = none :=
    Option.map_eq_none_iff.2 (replicasFor?_eq_none_iff.2
      ⟨by simp, by simp [entries], by decide⟩)
  refine ⟨rfl, ?_⟩
  rintro ⟨plan, made, _⟩
  cases none.symm.trans made

end RoundRobin

end ClusterDriver
