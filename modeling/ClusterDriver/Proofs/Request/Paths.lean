import ClusterDriver.Proofs.Request.Numbering
import Mathlib.Data.List.Chain
import Mathlib.Data.List.Count

set_option autoImplicit false

namespace ClusterDriver

namespace AttemptRecord

structure Calls (decision : RetryDecision) (record : AttemptRecord) : Prop where
  failed : record.error ≠ none
  decided : record.decision = some decision
  transport : ∀ detail, record.error = some (.transport detail) → decision = .retryNextNode

/-- An attempt leads to a later one of its execution. Where the same node should be tried again but
is not, it has refused to be. -/
structure Leads (refused : List SocketAddress) (record : AttemptRecord) (attempt : Nat)
    (node : SocketAddress) : Prop where
  later : record.attempt < attempt
  called : record.Calls .retryNextNode ∧ node ≠ record.node ∨
    record.Calls .retrySameNode ∧ (node = record.node ∨ record.node ∈ refused)

theorem Leads.mono {refused more : List SocketAddress} {record : AttemptRecord} {attempt : Nat}
    {node : SocketAddress} (leads : record.Leads refused attempt node) (grows : refused ⊆ more) :
    record.Leads more attempt node where
  later := leads.later
  called := leads.called.imp_right (And.imp_right (Or.imp_right fun member => grows member))

end AttemptRecord

def nodesOf (path : List AttemptRecord) : List SocketAddress := path.map (·.node)

theorem nodesOf_append (path : List AttemptRecord) (record : AttemptRecord) :
    nodesOf (path ++ [record]) = nodesOf path ++ [record.node] := by
  simp [nodesOf]

structure Follows (refused : List SocketAddress) (limit : Nat) (path : List AttemptRecord)
    (attempt : Nat) (node : SocketAddress) : Prop where
  leads : ∀ last, path.getLast? = some last → last.Leads refused attempt node
  stays : node ∈ nodesOf path → (nodesOf path).getLast? = some node
  tries : (nodesOf path).count node ≤ limit

theorem Follows.mono {refused more : List SocketAddress} {limit : Nat} {path : List AttemptRecord}
    {attempt : Nat} {node : SocketAddress} (follows : Follows refused limit path attempt node)
    (grows : refused ⊆ more) : Follows more limit path attempt node where
  leads last found := (follows.leads last found).mono grows
  stays := follows.stays
  tries := follows.tries

inductive Path (refused : List SocketAddress) (limit : Nat) : List AttemptRecord → Prop where
  | start : Path refused limit []
  | next {path : List AttemptRecord} {record : AttemptRecord} (earlier : Path refused limit path)
      (follows : Follows refused limit path record.attempt record.node) :
      Path refused limit (path ++ [record])

namespace Path

variable {refused more : List SocketAddress} {limit : Nat} {path : List AttemptRecord}

theorem mono (valid : Path refused limit path) (grows : refused ⊆ more) : Path more limit path := by
  induction valid with
  | start => exact .start
  | next _ follows ih => exact .next ih (follows.mono grows)

theorem consecutive (valid : Path refused limit path) :
    path.IsChain fun first second => first.Leads refused second.attempt second.node := by
  induction valid with
  | start => exact .nil
  | next _ follows ih =>
    refine List.isChain_append.2 ⟨ih, .singleton _, ?_⟩
    intro last found record new
    obtain rfl := Option.some.inj new
    exact follows.leads last found

theorem left (valid : Path refused limit path) {front back : List AttemptRecord}
    {record : AttemptRecord} (split : path = front ++ record :: back)
    (again : record.node ∈ nodesOf front) : (nodesOf front).getLast? = some record.node := by
  induction valid generalizing back with
  | start => simp at split
  | @next path last _ follows ih =>
    rcases List.eq_nil_or_concat back with rfl | ⟨rest, final, rfl⟩
    · obtain ⟨rfl, same⟩ := List.append_inj' split rfl
      cases same
      exact follows.stays again
    · rw [List.concat_eq_append, ← List.cons_append, ← List.append_assoc] at split
      exact ih (List.append_inj' split rfl).1

theorem tries (valid : Path refused limit path) (node : SocketAddress) :
    (nodesOf path).count node ≤ limit + 1 := by
  induction valid with
  | start => exact Nat.zero_le _
  | @next path record _ follows ih =>
    rw [nodesOf_append, List.count_append, List.count_singleton]
    split
    next same =>
      have bound := follows.tries
      rw [beq_iff_eq.1 same] at bound
      omega
    next => simpa using ih

end Path

/-- The node on which an execution goes on: the one a retry asked for, or one that is new to it. -/
inductive Heads (refused : List SocketAddress) (limit : Nat) (path : List AttemptRecord)
    (retries : Nat) : Option SocketAddress → Option Node → Prop where
  | back {node : Node} {last : AttemptRecord} (found : path.getLast? = some last)
      (same : last.node = node.address) (called : last.Calls .retrySameNode)
      (counted : (nodesOf path).count node.address = retries) (allowed : retries ≤ limit) :
      Heads refused limit path retries (some node.address) (some node)
  | onward {retryingOn : Option SocketAddress}
      (called : ∀ last, path.getLast? = some last → last.Calls .retryNextNode ∨
        last.Calls .retrySameNode ∧ last.node ∈ refused)
      (tried : ∀ address, retryingOn = some address → address ∈ nodesOf path) :
      Heads refused limit path retries retryingOn none

inductive Poised (refused : List SocketAddress) (limit : Nat) (path : List AttemptRecord)
    (retries : Nat) : Stage → Prop where
  | starting {preferred : Option Node}
      (heads : Heads refused limit path retries (preferred.map (·.address)) preferred) :
      Poised refused limit path retries (.starting preferred)
  | seeking {retryingOn : Option SocketAddress} {preferred : Option Node}
      (heads : Heads refused limit path retries retryingOn preferred) :
      Poised refused limit path retries (.seeking retryingOn preferred)
  | acquiring {retryingOn : Option SocketAddress} {preferred : Option Node} {node : Node}
      {pool : PoolId} (heads : Heads refused limit path retries retryingOn preferred)
      (target : preferred = some node ∨ preferred = none ∧ node.address ∉ nodesOf path) :
      Poised refused limit path retries (.acquiring retryingOn node pool)
  | awaiting {node : Node} {attempt started : Nat} {handle : Handle}
      (follows : Follows refused limit path attempt node.address)
      (counted : (nodesOf path).count node.address = retries) :
      Poised refused limit path retries (.awaiting node attempt started handle)

section Heading

variable {refused more : List SocketAddress} {limit retries : Nat} {path : List AttemptRecord}
  {retryingOn : Option SocketAddress} {preferred : Option Node} {node : Node} {stage : Stage}

theorem Heads.mono (heads : Heads refused limit path retries retryingOn preferred)
    (grows : refused ⊆ more) : Heads more limit path retries retryingOn preferred := by
  cases heads with
  | back found same called counted allowed => exact .back found same called counted allowed
  | onward called tried =>
    exact .onward (fun last found => (called last found).imp_right (And.imp_right (grows ·))) tried

theorem Poised.mono (poised : Poised refused limit path retries stage) (grows : refused ⊆ more) :
    Poised more limit path retries stage := by
  cases poised with
  | starting heads => exact .starting (heads.mono grows)
  | seeking heads => exact .seeking (heads.mono grows)
  | acquiring heads target => exact .acquiring (heads.mono grows) target
  | awaiting follows counted => exact .awaiting (follows.mono grows) counted

theorem last_mem_nodes {last : AttemptRecord} (found : path.getLast? = some last) :
    last.node ∈ nodesOf path :=
  List.mem_map_of_mem (List.mem_of_getLast? found)

theorem Heads.turnsAway (heads : Heads refused limit path retries retryingOn preferred)
    (target : preferred = some node ∨ preferred = none) :
    Heads (refused ++ [node.address]) limit path retries retryingOn none := by
  cases heads with
  | @back other last found same called =>
    obtain rfl : other = node := by simpa using target
    refine .onward ?_ ?_
    · intro record own
      obtain rfl := Option.some.inj (found.symm.trans own)
      exact .inr ⟨called, by simp [same]⟩
    · intro address tried
      cases tried
      exact same ▸ last_mem_nodes found
  | onward called tried =>
    exact Heads.mono (.onward called tried) (List.subset_append_left _ _)

theorem Heads.follows (heads : Heads refused limit path retries retryingOn preferred)
    (target : preferred = some node ∨ preferred = none ∧ node.address ∉ nodesOf path)
    {attempt : Nat} (later : ∀ record ∈ path, record.attempt < attempt) :
    Follows refused limit path attempt node.address := by
  cases heads with
  | @back other last found same called counted allowed =>
    obtain rfl : other = node := by simpa using target
    refine ⟨?_, ?_, counted ▸ allowed⟩
    · intro record own
      obtain rfl := Option.some.inj (found.symm.trans own)
      exact ⟨later last (List.mem_of_getLast? found), .inr ⟨called, .inl same.symm⟩⟩
    · intro _
      rw [nodesOf, List.getLast?_map, found, ← same]
      rfl
  | onward called =>
    have fresh : node.address ∉ nodesOf path := by simpa using target
    refine ⟨?_, fun member => absurd member fresh, ?_⟩
    · intro last found
      refine ⟨later last (List.mem_of_getLast? found), ?_⟩
      rcases called last found with next | ⟨again, refused⟩
      · refine .inl ⟨next, ?_⟩
        rintro same
        exact fresh (same ▸ last_mem_nodes found)
      · exact .inr ⟨again, .inr refused⟩
    · rw [List.count_eq_zero_of_not_mem fresh]
      exact Nat.zero_le limit

theorem Heads.counted (heads : Heads refused limit path retries retryingOn preferred)
    (target : preferred = some node ∨ preferred = none ∧ node.address ∉ nodesOf path) :
    (nodesOf path).count node.address = if retryingOn = some node.address then retries else 0 := by
  cases heads with
  | @back other last found same called counted =>
    obtain rfl : other = node := by simpa using target
    simpa using counted
  | onward called tried =>
    have fresh : node.address ∉ nodesOf path := by simpa using target
    have elsewhere : retryingOn ≠ some node.address := fun own => fresh (tried _ own)
    rw [List.count_eq_zero_of_not_mem fresh, if_neg elsewhere]

end Heading

def attemptsOf (number : Nat) (records : List AttemptRecord) : List AttemptRecord :=
  records.filter (·.execution = number)

theorem attemptsOf_append (number : Nat) (records : List AttemptRecord) (record : AttemptRecord) :
    attemptsOf number (records ++ [record]) =
      attemptsOf number records ++ if record.execution = number then [record] else [] := by
  simp only [attemptsOf, List.filter_append, List.filter_cons, List.filter_nil, decide_eq_true_eq]

structure Paths (refused : List SocketAddress) (limit : Nat) (records : List AttemptRecord)
    (executions : List Execution) : Prop where
  recorded : ∀ number, Path refused limit (attemptsOf number records)
  poised : ∀ execution ∈ executions, Poised refused limit (attemptsOf execution.number records)
    execution.sameNodeRetries execution.stage

namespace Paths

variable {refused more : List SocketAddress} {limit : Nat} {records : List AttemptRecord}
  {executions few : List Execution} {next : Execution}

theorem drops (paths : Paths refused limit records executions) (sublist : few.Sublist executions) :
    Paths refused limit records few where
  recorded := paths.recorded
  poised execution member := paths.poised execution (sublist.subset member)

theorem goesOn (paths : Paths refused limit records executions) (grows : refused ⊆ more)
    (poised : Poised more limit (attemptsOf next.number records) next.sameNodeRetries next.stage) :
    Paths more limit records (replaced next executions) where
  recorded number := (paths.recorded number).mono grows
  poised :=
    forall_replaced poised fun execution member _ => (paths.poised execution member).mono grows

theorem recorded_append {record : AttemptRecord} (paths : Paths refused limit records executions)
    (follows : Follows refused limit (attemptsOf record.execution records) record.attempt
      record.node) :
    ∀ number, Path refused limit (attemptsOf number (records ++ [record])) := by
  intro number
  rw [attemptsOf_append]
  split
  next same =>
    subst same
    exact (paths.recorded record.execution).next follows
  next =>
    rw [List.append_nil]
    exact paths.recorded number

theorem hears {record : AttemptRecord} (paths : Paths refused limit records executions)
    (own : record.execution = next.number)
    (follows : Follows refused limit (attemptsOf record.execution records) record.attempt
      record.node)
    (poised : Poised refused limit (attemptsOf next.number records ++ [record])
      next.sameNodeRetries next.stage) :
    Paths refused limit (records ++ [record]) (replaced next executions) where
  recorded := paths.recorded_append follows
  poised := by
    refine forall_replaced ?_ ?_
    · rwa [attemptsOf_append, if_pos own]
    · intro execution member different
      rw [attemptsOf_append, if_neg (own ▸ different.symm), List.append_nil]
      exact paths.poised execution member

theorem starts (paths : Paths refused limit records executions)
    (begins : next.stage = .starting none) (untried : attemptsOf next.number records = []) :
    Paths refused limit records (executions ++ [next]) where
  recorded := paths.recorded
  poised := by
    refine List.forall_mem_append.2 ⟨paths.poised, List.forall_mem_singleton.2 ?_⟩
    rw [begins, untried]
    exact .starting (.onward (by simp) (by simp))

end Paths

def Stage.node? : Stage → Option Node
  | .starting preferred | .seeking _ preferred => preferred
  | .acquiring _ node _ | .awaiting node _ _ _ => some node

/-- Every node that was taken from the plan belongs to one execution for good. -/
structure Ownership (owner : SocketAddress → Option Nat) (remaining : List Node)
    (refused : List SocketAddress) (records : List AttemptRecord) (executions : List Execution) :
    Prop where
  planned : (remaining.map (·.address)).Nodup
  free : ∀ node ∈ remaining, owner node.address = none
  unusable : ∀ address ∈ refused, owner address ≠ none
  recorded : ∀ record ∈ records, owner record.node = some record.execution
  held : ∀ execution ∈ executions, ∀ node, execution.stage.node? = some node →
    owner node.address = some execution.number ∧ node.address ∉ refused

namespace Ownership

variable {owner : SocketAddress → Option Nat} {remaining : List Node}
  {refused : List SocketAddress} {records : List AttemptRecord} {executions few : List Execution}
  {next : Execution} {node : Node} {number : Nat}

theorem drops (ownership : Ownership owner remaining refused records executions)
    (sublist : few.Sublist executions) : Ownership owner remaining refused records few :=
  { ownership with
    held := fun execution member => ownership.held execution (sublist.subset member) }

theorem goesOn (ownership : Ownership owner remaining refused records executions)
    (held : ∀ node, next.stage.node? = some node →
      owner node.address = some next.number ∧ node.address ∉ refused) :
    Ownership owner remaining refused records (replaced next executions) where
  planned := ownership.planned
  free := ownership.free
  unusable := ownership.unusable
  recorded := ownership.recorded
  held := forall_replaced held fun execution member _ => ownership.held execution member

theorem takes (ownership : Ownership owner (node :: remaining) refused records executions)
    (number : Nat) :
    Ownership (Function.update owner node.address (some number)) remaining refused records
      executions := by
  have new := ownership.free node List.mem_cons_self
  have kept {address : SocketAddress} {other : Nat} (owned : owner address = some other) :
      Function.update owner node.address (some number) address = some other := by
    have different : address ≠ node.address := by
      rintro rfl
      cases new.symm.trans owned
    rwa [Function.update_of_ne different]
  obtain ⟨first, rest⟩ := List.nodup_cons.1 ownership.planned
  refine ⟨rest, ?_, ?_, ?_, ?_⟩
  · intro other member
    have different : other.address ≠ node.address := by
      intro same
      exact first (List.mem_map.2 ⟨other, member, same⟩)
    rw [Function.update_of_ne different]
    exact ownership.free other (List.mem_cons_of_mem _ member)
  · intro address member
    obtain ⟨other, owned⟩ := Option.ne_none_iff_exists'.1 (ownership.unusable address member)
    simp [kept owned]
  · exact fun record member => kept (ownership.recorded record member)
  · intro execution member other holds
    obtain ⟨owned, usable⟩ := ownership.held execution member other holds
    exact ⟨kept owned, usable⟩

theorem refuses {address : SocketAddress}
    (ownership : Ownership owner remaining refused records executions)
    (owned : owner address = some next.number) (leaves : next.stage.node? = none) :
    Ownership owner remaining (refused ++ [address]) records (replaced next executions) where
  planned := ownership.planned
  free := ownership.free
  unusable :=
    List.forall_mem_append.2 ⟨ownership.unusable, List.forall_mem_singleton.2 (by simp [owned])⟩
  recorded := ownership.recorded
  held := by
    refine forall_replaced ?_ ?_
    · intro node holds
      cases leaves.symm.trans holds
    · intro execution member different node holds
      obtain ⟨mine, usable⟩ := ownership.held execution member node holds
      have another : node.address ≠ address := by
        rintro rfl
        exact different (Option.some.inj (mine.symm.trans owned))
      exact ⟨mine, by simp [usable, another]⟩

theorem recorded_append {record : AttemptRecord}
    (ownership : Ownership owner remaining refused records executions)
    (owned : owner record.node = some record.execution) :
    ∀ other ∈ records ++ [record], owner other.node = some other.execution :=
  List.forall_mem_append.2 ⟨ownership.recorded, List.forall_mem_singleton.2 owned⟩

theorem hears {record : AttemptRecord}
    (ownership : Ownership owner remaining refused records executions)
    (owned : owner record.node = some record.execution)
    (held : ∀ node, next.stage.node? = some node →
      owner node.address = some next.number ∧ node.address ∉ refused) :
    Ownership owner remaining refused (records ++ [record]) (replaced next executions) where
  planned := ownership.planned
  free := ownership.free
  unusable := ownership.unusable
  recorded := ownership.recorded_append owned
  held := (ownership.goesOn held).held

theorem starts (ownership : Ownership owner remaining refused records executions)
    (begins : next.stage.node? = none) :
    Ownership owner remaining refused records (executions ++ [next]) where
  planned := ownership.planned
  free := ownership.free
  unusable := ownership.unusable
  recorded := ownership.recorded
  held := by
    refine List.forall_mem_append.2 ⟨ownership.held, List.forall_mem_singleton.2 ?_⟩
    intro node holds
    cases begins.symm.trans holds

end Ownership

end ClusterDriver
