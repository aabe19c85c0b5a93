import ClusterDriver.Proofs.Metrics.Histogram
import ClusterDriver.Proofs.Metrics.Nodes
import Mathlib.Data.List.DropRight

set_option autoImplicit false

namespace ClusterDriver

section Totals

variable {α : Type} {map : Std.TreeMap String α} {key : String} {value : α}

def total (weight : α → Nat) (map : Std.TreeMap String α) : Nat :=
  (map.toList.map fun entry => weight entry.2).sum

theorem nodup_toList (map : Std.TreeMap String α) : map.toList.Nodup := by
  apply List.Pairwise.imp _ map.distinct_keys_toList
  intro first second different same
  exact different (Std.LawfulEqCmp.compare_eq_iff_eq.2 (congrArg Prod.fst same))

theorem toList_perm (stored : map[key]? = some value) :
    map.toList.Perm ((key, value) :: map.toList.filter (¬key == ·.1)) := by
  have apart : (key, value) ∉ map.toList.filter (¬key == ·.1) := by simp
  rw [List.perm_ext_iff_of_nodup (nodup_toList map)
    (List.nodup_cons.2 ⟨apart, (nodup_toList map).filter _⟩)]
  intro ⟨other, count⟩
  rw [List.mem_cons, List.mem_filter]
  by_cases same : key = other
  · subst same
    simp [stored, eq_comm]
  · simp [same, Ne.symm same]

theorem total_insert (weight : α → Nat) (map : Std.TreeMap String α) (key : String) (value : α) :
    total weight (map.insert key value) + (map[key]?.map weight).getD 0 =
      total weight map + weight value := by
  have inserted : total weight (map.insert key value) = weight value +
      ((map.toList.filter (¬key == ·.1)).map fun entry => weight entry.2).sum := by
    simpa [total] using
      ((map.toList_insert_perm (k := key) (v := value)).map fun entry => weight entry.2).sum_eq
  cases stored : map[key]? with
  | none =>
    have others : map.toList.filter (¬key == ·.1) = map.toList := by
      rw [List.filter_eq_self]
      intro ⟨other, count⟩ member
      have present := Std.TreeMap.mem_toList_iff_getElem?_eq_some.1 member
      have different : key ≠ other := fun same => by
        rw [← same, stored] at present
        cases present
      simpa using different
    rw [inserted, others, Option.map_none, Option.getD_none, Nat.add_zero, Nat.add_comm]
    rfl
  | some old =>
    have before : total weight map = weight old +
        ((map.toList.filter (¬key == ·.1)).map fun entry => weight entry.2).sum := by
      simpa [total] using ((toList_perm stored).map fun entry => weight entry.2).sum_eq
    rw [inserted, before, Option.map_some, Option.getD_some]
    omega

end Totals

namespace Metrics

def Event.kind? : Event → Option String
  | .failure kind _ => some kind
  | _ => none

def Event.ends (success : Bool) : Event → Bool
  | .outcome _ _ result => result = success
  | _ => false

def Event.attemptLatency? : Event → Option Nat
  | .outcome _ latency _ => some latency
  | _ => none

def Event.requestLatency? : Event → Option Nat
  | .success latency | .ignored latency | .failure _ latency => some latency
  | _ => none

/-- The events about a node since it was last removed. -/
def callsOn (node : String) (events : List Event) : List Event :=
  (events.filter fun event => event.node? = some node).rtakeWhile fun event => !event.forgets node

variable {metrics : Metrics} {events : List Event} {node : String}

theorem callsOn_other {event : Event} (other : event.node? ≠ some node) :
    callsOn node (events ++ [event]) = callsOn node events := by
  simp [callsOn, other]

theorem callsOn_counted {event : Event} (about : event.node? = some node)
    (kept : event.forgets node = false) :
    callsOn node (events ++ [event]) = callsOn node events ++ [event] := by
  simp [callsOn, about, kept]

theorem callsOn_removed (node : String) (events : List Event) :
    callsOn node (events ++ [.nodeRemoved node]) = [] := by
  simp [callsOn, Event.node?, Event.forgets]

theorem length_callsOn_le (node : String) (events : List Event) :
    (callsOn node events).length ≤ events.length :=
  ((List.rtakeWhile_suffix _ _).length_le).trans (List.length_filter_le _ _)

def statsOf (node : String) (calls : List Event) : NodeStats where
  attempts := calls.countP (·.asks node)
  successes := calls.countP (·.ends true)
  errors := calls.countP (·.ends false)
  latency := .ofSamples (calls.filterMap (·.attemptLatency?))

/-- There is an entry as soon as there is an event to count. -/
def statsSince? (node : String) (events : List Event) : Option NodeStats :=
  if callsOn node events = [] then none else some (statsOf node (callsOn node events))

theorem statsOf_attempt (node : String) (calls : List Event) :
    statsOf node (calls ++ [.attempt node]) =
      { statsOf node calls with attempts := (statsOf node calls).attempts + 1 } := by
  simp [statsOf, Event.asks, Event.ends, Event.attemptLatency?]

theorem statsOf_outcome (node : String) (calls : List Event) (latency : Nat) (success : Bool) :
    statsOf node (calls ++ [.outcome node latency success]) =
      withOutcome (statsOf node calls) latency success := by
  cases success with
  | true => simp [statsOf, withOutcome, Event.asks, Event.ends, Event.attemptLatency?,
      Histogram.ofSamples]
  | false => simp [statsOf, withOutcome, Event.asks, Event.ends, Event.attemptLatency?,
      Histogram.ofSamples]

theorem timed_ends (call : Event) : (if call.attemptLatency?.isSome then 1 else 0) =
    (if call.ends true then 1 else 0) + (if call.ends false then 1 else 0) := by
  cases call with
  | outcome node latency success => cases success <;> rfl
  | _ => rfl

theorem samples_statsOf (node : String) (calls : List Event) :
    (statsOf node calls).latency.samples =
      (statsOf node calls).successes + (statsOf node calls).errors := by
  simp only [statsOf, Histogram.samples_ofSamples, List.length_filterMap_eq_countP]
  induction calls with
  | nil => rfl
  | cons call rest ih =>
    have timed := timed_ends call
    simp only [List.countP_cons, ih]
    omega

theorem nodeStats_of_entry (entry : metrics.nodes[node]? = statsSince? node events) :
    metrics.nodeStats node = statsOf node (callsOn node events) := by
  rw [nodeStats, Std.TreeMap.getD_eq_getD_getElem?, entry, statsSince?]
  split
  next none => rw [none]; rfl
  next => rfl

theorem entry_record (entry : metrics.nodes[node]? = statsSince? node events) (event : Event) :
    (metrics.record event).nodes[node]? = statsSince? node (events ++ [event]) := by
  by_cases about : event.node? = some node
  · have stats := nodeStats_of_entry entry
    cases event with
    | attempt other =>
      obtain rfl : other = node := Option.some.inj about
      rw [statsSince?, callsOn_counted about rfl, if_neg (by simp), statsOf_attempt, ← stats]
      exact nodes_updateNode_own _ _
    | outcome other latency success =>
      obtain rfl : other = node := Option.some.inj about
      rw [statsSince?, callsOn_counted about rfl, if_neg (by simp), statsOf_outcome, ← stats]
      exact nodes_updateNode_own _ _
    | nodeRemoved other =>
      obtain rfl : other = node := Option.some.inj about
      rw [nodes_removed, if_pos rfl, statsSince?, callsOn_removed, if_pos rfl]
    | _ => cases about
  · rw [nodes_record_other metrics about, entry, statsSince?, statsSince?, callsOn_other about]

theorem errors_record_other (metrics : Metrics) {event : Event} {kind : String}
    (other : event.kind? ≠ some kind) :
    (metrics.record event).errors[kind]? = metrics.errors[kind]? := by
  cases event with
  | failure own latency =>
    have different : own ≠ kind := fun same => other (congrArg some same)
    simp [record, Std.TreeMap.getElem?_insert, Std.LawfulEqCmp.compare_eq_iff_eq, different]
  | _ => rfl

theorem total_updateNode (metrics : Metrics) (node : String) (update : NodeStats → NodeStats) :
    total (·.attempts) (metrics.updateNode node update).nodes + (metrics.nodeStats node).attempts =
      total (·.attempts) metrics.nodes + (update (metrics.nodeStats node)).attempts := by
  have sum := total_insert (·.attempts) metrics.nodes node (update (metrics.nodeStats node))
  have before : (metrics.nodes[node]?.map (·.attempts)).getD 0 =
      (metrics.nodeStats node).attempts := by
    rw [nodeStats, Std.TreeMap.getD_eq_getD_getElem?]
    cases metrics.nodes[node]? <;> rfl
  rwa [before] at sum

structure Balanced (metrics : Metrics) (events : List Event) : Prop where
  failed : metrics.failed = total id metrics.errors
  kinds : ∀ kind, metrics.errors.getD kind 0 = events.countP (·.kind? = some kind)
  latency : metrics.latency = .ofSamples (events.filterMap (·.requestLatency?))
  samples : metrics.latency.samples = metrics.succeeded + metrics.failed
  ignored : metrics.ignored ≤ metrics.succeeded
  entries : ∀ node, metrics.nodes[node]? = statsSince? node events
  attempts : (∀ node, .nodeRemoved node ∉ events) →
    metrics.attempts = total (·.attempts) metrics.nodes

namespace Balanced

theorem empty : ({} : Metrics).Balanced [] where
  failed := rfl
  kinds _ := rfl
  latency := rfl
  samples := rfl
  ignored := Nat.le_refl 0
  entries _ := rfl
  attempts _ := rfl

variable (balanced : metrics.Balanced events)

include balanced

theorem failed_record (event : Event) :
    (metrics.record event).failed = total id (metrics.record event).errors := by
  cases event with
  | failure kind latency =>
    have sum := total_insert id metrics.errors kind (metrics.errors.getD kind 0 + 1)
    rw [Option.map_id, id, ← Std.TreeMap.getD_eq_getD_getElem?, ← balanced.failed, id] at sum
    simp only [record]
    omega
  | _ => exact balanced.failed

theorem kinds_record (event : Event) (kind : String) :
    (metrics.record event).errors.getD kind 0 =
      (events ++ [event]).countP (·.kind? = some kind) := by
  rw [List.countP_append, List.countP_singleton, ← balanced.kinds]
  cases event with
  | failure own latency =>
    simp only [record, Std.TreeMap.getD_insert, Std.LawfulEqCmp.compare_eq_iff_eq, Event.kind?,
      Option.some.injEq, decide_eq_true_eq]
    split
    next same => rw [same]
    next => rfl
  | _ => rfl

theorem latency_record (event : Event) : (metrics.record event).latency =
    .ofSamples ((events ++ [event]).filterMap (·.requestLatency?)) := by
  rw [List.filterMap_append, Histogram.ofSamples, List.foldl_append, ← Histogram.ofSamples,
    ← balanced.latency]
  cases event <;> rfl

theorem samples_record (event : Event) : (metrics.record event).latency.samples =
    (metrics.record event).succeeded + (metrics.record event).failed := by
  have samples := balanced.samples
  cases event with
  | success latency =>
    simp only [record, recordSuccess, Histogram.record]
    omega
  | ignored latency =>
    simp only [record, recordSuccess, Histogram.record]
    omega
  | failure kind latency =>
    simp only [record, Histogram.record]
    omega
  | _ => exact samples

theorem ignored_record (event : Event) :
    (metrics.record event).ignored ≤ (metrics.record event).succeeded := by
  have ignored := balanced.ignored
  cases event with
  | success latency => exact Nat.le_succ_of_le ignored
  | ignored latency => exact Nat.succ_le_succ ignored
  | _ => exact ignored

theorem attempts_record (event : Event) (kept : ∀ node, .nodeRemoved node ∉ events ++ [event]) :
    (metrics.record event).attempts = total (·.attempts) (metrics.record event).nodes := by
  have before := balanced.attempts fun node member => kept node (List.mem_append_left _ member)
  cases event with
  | attempt node =>
    have sum := total_updateNode { metrics with attempts := metrics.attempts + 1 } node
      fun stats => { stats with attempts := stats.attempts + 1 }
    simp only [record, nodeStats, updateNode] at sum ⊢
    omega
  | outcome node latency success =>
    have sum := total_updateNode metrics node fun stats => withOutcome stats latency success
    exact before.trans (Nat.add_right_cancel sum).symm
  | nodeRemoved node => exact absurd (List.mem_append_right _ List.mem_cons_self) (kept node)
  | _ => exact before

theorem record (event : Event) : (metrics.record event).Balanced (events ++ [event]) where
  failed := balanced.failed_record event
  kinds := balanced.kinds_record event
  latency := balanced.latency_record event
  samples := balanced.samples_record event
  ignored := balanced.ignored_record event
  entries node := entry_record (balanced.entries node) event
  attempts := balanced.attempts_record event

theorem recordAll (more : List Event) : (metrics.recordAll more).Balanced (events ++ more) := by
  induction more generalizing metrics events with
  | nil => simpa [Metrics.recordAll] using balanced
  | cons event rest ih => simpa [Metrics.recordAll] using ih (balanced.record event)

end Balanced

def overall : List (Metrics → Nat) :=
  [submitted, succeeded, failed, cancelled, ignored, overallTimeouts, attempts, retries,
    speculativeExecutions]

theorem overall_record (metrics : Metrics) (event : Event) :
    ∀ counter ∈ overall, counter (metrics.record event) ≤ counter metrics + 1 := by
  simp only [overall, List.forall_mem_cons, List.not_mem_nil, false_imp_iff, implies_true, and_true]
  cases event <;> simp only [record, recordSuccess, updateNode] <;> omega

theorem overall_recordAll (metrics : Metrics) (events : List Event) :
    ∀ counter ∈ overall, counter (metrics.recordAll events) ≤ counter metrics + events.length := by
  intro counter listed
  induction events generalizing metrics with
  | nil => exact Nat.le_refl _
  | cons event rest ih =>
    have first := overall_record metrics event counter listed
    have others := ih (metrics.record event)
    simp only [recordAll, List.foldl_cons, List.length_cons] at others ⊢
    omega

end Metrics

structure NodeStats.Within (limit : Nat) (stats : NodeStats) : Prop where
  counters : ∀ counter ∈ [stats.attempts, stats.successes, stats.errors], counter ≤ limit
  latency : stats.latency.Within limit

namespace Metrics

structure Within (limit : Nat) (metrics : Metrics) : Prop where
  overall : ∀ counter ∈ overall, counter metrics ≤ limit
  latency : metrics.latency.Within limit
  errors : ∀ (kind : String) (count : Nat), metrics.errors[kind]? = some count → count ≤ limit
  entries : ∀ (node : String) (stats : NodeStats), metrics.nodes[node]? = some stats →
    stats.Within limit

theorem statsOf_within (node : String) {calls : List Event} {limit : Nat}
    (few : calls.length ≤ limit) : (statsOf node calls).Within limit where
  counters := by
    have atMost (counted : Event → Bool) : calls.countP counted ≤ limit :=
      List.countP_le_length.trans few
    simp [statsOf, atMost]
  latency := (Histogram.tallies_ofSamples _).within ((List.length_filterMap_le _ _).trans few)

theorem recordAll_within {events : List Event} {limit : Nat} (few : events.length ≤ limit) :
    (({} : Metrics).recordAll events).Within limit := by
  have balanced : (({} : Metrics).recordAll events).Balanced events :=
    Balanced.empty.recordAll events
  refine ⟨?_, ?_, ?_, ?_⟩
  · intro counter listed
    have bound := overall_recordAll {} events counter listed
    have zero : ∀ counter ∈ overall, counter {} = 0 := by decide
    rw [zero counter listed, Nat.zero_add] at bound
    exact bound.trans few
  · rw [balanced.latency]
    exact (Histogram.tallies_ofSamples _).within ((List.length_filterMap_le _ _).trans few)
  · intro kind count stored
    have counted := balanced.kinds kind
    rw [Std.TreeMap.getD_eq_getD_getElem?, stored, Option.getD_some] at counted
    rw [counted]
    exact List.countP_le_length.trans few
  · intro node stats stored
    rw [balanced.entries, statsSince?, Option.ite_none_left_eq_some, Option.some.injEq] at stored
    rw [← stored.2]
    exact statsOf_within node ((length_callsOn_le node events).trans few)

theorem samples_summary (histogram : Histogram) :
    histogram.summary.samples = histogram.samples := by
  simp only [Histogram.summary, Histogram.summaryBy]
  split
  next none => exact none.symm
  next => rfl

theorem nodes_snapshot (metrics : Metrics) (node : String) :
    metrics.snapshot.nodes[node]? = metrics.nodes[node]?.map (·.snapshot node) := by
  simp [snapshot]

theorem total_snapshot (metrics : Metrics) :
    total (·.attempts) metrics.snapshot.nodes = total (·.attempts) metrics.nodes := by
  simp [total, snapshot, NodeStats.snapshot, Function.comp_def]

/-- Failures are the sum of those of each kind, requests with a latency those that succeeded or
failed, and none but successful ones are ignored. The entry of a node counts the events about it
since it was last removed, so that its latencies are its outcomes; and while no node is removed the
attempts are the sum of those of each node. No event changes the counters of a node or of a kind
that it is not about, and none of the counters has to leave 64 bits. -/
theorem snapshot_balances (events : List Event) (few : events.length < 2 ^ 64) :
    let metrics := ({} : Metrics).recordAll events
    let snapshot := metrics.snapshot
    snapshot.requests.failed = total id snapshot.errors ∧
      snapshot.requests.latency.samples =
        snapshot.requests.succeeded + snapshot.requests.failed ∧
      snapshot.requests.ignored ≤ snapshot.requests.succeeded ∧
      (∀ (node : String) (entry : NodeMetrics), snapshot.nodes[node]? = some entry →
        entry.latency.samples = entry.successes + entry.errors) ∧
      (∀ node, snapshot.nodes[node]? = (statsSince? node events).map (·.snapshot node)) ∧
      ((∀ node, .nodeRemoved node ∉ events) →
        snapshot.requests.attempts = total (·.attempts) snapshot.nodes) ∧
      (∀ (event : Event) (node : String), event.node? ≠ some node →
        (metrics.record event).snapshot.nodes[node]? = snapshot.nodes[node]?) ∧
      (∀ (event : Event) (kind : String), event.kind? ≠ some kind →
        (metrics.record event).snapshot.errors[kind]? = snapshot.errors[kind]?) ∧
      metrics.Within (2 ^ 64 - 1) := by
  intro metrics snapshot
  have balanced : metrics.Balanced events := Balanced.empty.recordAll events
  have entries (node : String) :
      snapshot.nodes[node]? = (statsSince? node events).map (·.snapshot node) := by
    rw [← balanced.entries]
    exact nodes_snapshot metrics node
  refine ⟨balanced.failed, ?_, balanced.ignored, ?_, entries, ?_, ?_, ?_, ?_⟩
  · exact (samples_summary metrics.latency).trans balanced.samples
  · intro node entry stored
    rw [entries, statsSince?] at stored
    split at stored
    · cases stored
    · obtain rfl := Option.some.inj stored
      exact (samples_summary _).trans (samples_statsOf node _)
  · intro kept
    exact (balanced.attempts kept).trans (total_snapshot metrics).symm
  · intro event node other
    rw [nodes_snapshot, nodes_snapshot, nodes_record_other metrics other]
  · exact fun event kind other => errors_record_other metrics other
  · exact recordAll_within (Nat.le_pred_of_lt few)

def eventful : List Event :=
  [.submitted, .attempt "n1", .outcome "n1" 500 false, .retry, .attempt "n2",
    .outcome "n2" 700 false, .ignored 900, .submitted, .failure "NoNodeAvailable" 1200]

theorem eventful_balances :
    let removal := [.nodeRemoved "n1", .outcome "n1" 40 true]
    let snapshot := (({} : Metrics).recordAll eventful).snapshot
    let later := (({} : Metrics).recordAll (eventful ++ removal)).snapshot
    eventful.length < 2 ^ 64 ∧ snapshot.requests.failed = 1 ∧ total id snapshot.errors = 1 ∧
      (∀ node, .nodeRemoved node ∉ eventful) ∧ snapshot.requests.attempts = 2 ∧
      total (·.attempts) snapshot.nodes = 2 ∧
      (later.nodes["n1"]?).map (fun entry => (entry.attempts, entry.successes, entry.errors)) =
        some (0, 1, 0) := by
  intro removal snapshot later
  have few : eventful.length < 2 ^ 64 := by decide
  have kept : ∀ node, .nodeRemoved node ∉ eventful := by simp [eventful]
  obtain ⟨failed, -, -, -, -, attempts, -⟩ := snapshot_balances eventful few
  obtain ⟨-, -, -, -, entries, -⟩ := snapshot_balances (eventful ++ removal) (by decide)
  refine ⟨few, rfl, failed.symm, kept, rfl, (attempts kept).symm, ?_⟩
  rw [entries "n1"]
  rfl

end Metrics

end ClusterDriver
