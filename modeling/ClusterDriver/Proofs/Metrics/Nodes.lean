import ClusterDriver.Metrics

set_option autoImplicit false

namespace ClusterDriver.Metrics

def Event.node? : Event → Option String
  | .attempt node | .outcome node _ _ | .nodeRemoved node => some node
  | _ => none

def Event.asks (key : String) : Event → Bool
  | .attempt node => node = key
  | _ => false

def Event.answers (key : String) : Event → Bool
  | .outcome node _ _ => node = key
  | _ => false

def Event.forgets (key : String) : Event → Bool
  | .nodeRemoved node => node = key
  | _ => false

variable {key : String}

theorem nodeStats_of_nodes {metrics other : Metrics}
    (same : metrics.nodes[key]? = other.nodes[key]?) :
    metrics.nodeStats key = other.nodeStats key := by
  simp only [nodeStats, Std.TreeMap.getD_eq_getD_getElem?, same]

theorem nodeStats_updateNode (metrics : Metrics) (node : String) (update : NodeStats → NodeStats) :
    (metrics.updateNode node update).nodeStats key =
      if node = key then update (metrics.nodeStats key) else metrics.nodeStats key := by
  simp only [nodeStats, updateNode, Std.TreeMap.getD_insert, Std.LawfulEqCmp.compare_eq_iff_eq]
  split
  next same => rw [same]
  next => rfl

theorem nodes_updateNode (metrics : Metrics) {node : String} (other : node ≠ key)
    (update : NodeStats → NodeStats) :
    (metrics.updateNode node update).nodes[key]? = metrics.nodes[key]? := by
  simp [updateNode, Std.TreeMap.getElem?_insert, Std.LawfulEqCmp.compare_eq_iff_eq, other]

theorem nodes_removed (metrics : Metrics) (node : String) :
    (metrics.record (.nodeRemoved node)).nodes[key]? =
      if node = key then none else metrics.nodes[key]? := by
  simp [record, Std.TreeMap.getElem?_erase, Std.LawfulEqCmp.compare_eq_iff_eq]

theorem nodes_updateNode_own (metrics : Metrics) (update : NodeStats → NodeStats) :
    (metrics.updateNode key update).nodes[key]? = some (update (metrics.nodeStats key)) := by
  simp [updateNode]

theorem nodes_record_other (metrics : Metrics) {event : Event} (other : event.node? ≠ some key) :
    (metrics.record event).nodes[key]? = metrics.nodes[key]? := by
  cases event with
  | attempt node =>
    have different : node ≠ key := fun same => other (congrArg some same)
    exact nodes_updateNode _ different _
  | outcome node latency success =>
    have different : node ≠ key := fun same => other (congrArg some same)
    exact nodes_updateNode _ different _
  | nodeRemoved node =>
    have different : node ≠ key := fun same => other (congrArg some same)
    rw [nodes_removed, if_neg different]
  | _ => rfl

end ClusterDriver.Metrics
