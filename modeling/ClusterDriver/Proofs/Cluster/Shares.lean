import ClusterDriver.Proofs.Cluster.Plans
import Mathlib.Data.Nat.ModEq

set_option autoImplicit false

namespace ClusterDriver

namespace RoundRobin

section Places

variable {α : Type} {near : List α} {mark : Node → α}

def ComesAt (mark : Node → α) (plan : Plan) (place : Nat) (node : α) : Prop :=
  ∃ order, plan.Yields order ∧ order[place]?.map mark = some node

/-- Of as many plans as there are nodes, each node has each of the first places in exactly one. -/
def SharesEvenly (mark : Node → α) (near : List α) (plans : Nat → Option Plan) : Prop :=
  ∀ node ∈ near, ∀ place < near.length,
    ∃! turn, turn < near.length ∧ ∃ plan ∈ plans turn, ComesAt mark plan place node

theorem comesAt_iff {nodes : List Node} {cursor place : Nat} {node : α}
    (seen : (candidates nodes .near).map mark = near) (first : place < near.length) :
    ComesAt mark ((⟨cursor⟩ : RoundRobin).arrange nodes []) place node ↔
      near[(place + cursor) % near.length]? = some node := by
  have length : (candidates nodes .near).length = near.length := by
    rw [← seen, List.length_map]
  have turned : (⟨cursor⟩ : RoundRobin).othersAt (nodes.filter Node.isQueryable) [] .near =
      (candidates nodes .near).rotate cursor := by
    rw [othersAt, rotated_eq, candidates, List.filter_filter]
    simp [and_comm]
  have order : ((⟨cursor⟩ : RoundRobin).arrange nodes []).remaining =
      (candidates nodes .near).rotate cursor ++
        (⟨cursor⟩ : RoundRobin).othersAt (nodes.filter Node.isQueryable) [] .remote := by
    rw [← turned]
    rfl
  simp only [ComesAt, Plan.yields_iff, exists_eq_left]
  rw [order, List.getElem?_append_left (by simpa [length] using first),
    List.getElem?_rotate (length.symm ▸ first), ← List.getElem?_map, seen, length]

theorem existsUnique_turn {count wanted : Nat} (offset : Nat) (small : wanted < count) :
    ∃! turn, turn < count ∧ (offset + turn) % count = wanted := by
  -- On to the next multiple of the count, and from there to the wanted remainder.
  refine existsUnique_of_exists_of_unique ⟨(wanted + (count - offset % count)) % count, ?_, ?_⟩ ?_
  · exact Nat.mod_lt _ (by omega)
  · have below := Nat.mod_lt offset (Nat.zero_lt_of_lt small)
    have split := Nat.mod_add_div offset count
    have whole : offset + (wanted + (count - offset % count)) =
        wanted + count * (offset / count + 1) := by
      rw [Nat.mul_succ]
      omega
    rw [Nat.add_mod_mod, whole, Nat.add_mul_mod_self_left, Nat.mod_eq_of_lt small]
  · rintro turn other ⟨bound, reached⟩ ⟨otherBound, alike⟩
    have same : Nat.ModEq count (offset + turn) (offset + other) := reached.trans alike.symm
    exact same.add_left_cancel' _ |>.eq_of_lt_of_lt bound otherBound

theorem sharesEvenly_of_cursors (distinct : near.Nodup) (cursor : Nat) {plans : Nat → Option Plan}
    (made : ∀ turn < near.length, ∃ nodes ring,
      (candidates nodes .near).map mark = near ∧
        plans turn = (⟨cursor + turn⟩ : RoundRobin).plan? none nodes ring) :
    SharesEvenly mark near plans := by
  intro node member place first
  obtain ⟨wanted, small, rfl⟩ := List.mem_iff_getElem.1 member
  have placed (turn : Nat) :
      (turn < near.length ∧ ∃ plan ∈ plans turn, ComesAt mark plan place near[wanted]) ↔
        turn < near.length ∧ (place + cursor + turn) % near.length = wanted := by
    refine and_congr_right fun bound => ?_
    obtain ⟨nodes, ring, seen, same⟩ := made turn bound
    have there : (place + (cursor + turn)) % near.length < near.length :=
      Nat.mod_lt _ (by omega)
    have made : plans turn = some ((⟨cursor + turn⟩ : RoundRobin).arrange nodes []) := same
    simp only [made, Option.mem_some, exists_eq_left', comesAt_iff seen first]
    rw [Nat.add_assoc, List.getElem?_eq_getElem there, Option.some.injEq,
      distinct.getElem_inj_iff]
  simpa only [placed] using existsUnique_turn (place + cursor) small

end Places

end RoundRobin

/-- How far the making of a plan has come. The number drawn is the cursor of the plan, which fails
if the replicas of its key cannot be looked up. -/
inductive PlanStage where
  | begun
  | drawn (number : Nat)
  | made (number : Nat) (plan : Plan)
  | failed (number : Nat)

namespace PlanStage

def number? : PlanStage → Option Nat
  | .begun => none
  | .drawn number => some number
  | .made number _ => some number
  | .failed number => some number

def plan? : PlanStage → Option Plan
  | .made _ plan => some plan
  | _ => none

end PlanStage

structure PlanCall where
  key : Option ByteArray
  nodes : List Node
  ring : TokenRing
  stage : PlanStage := .begun

/-- Calls that share a cursor, and the order in which they drew from it. -/
structure PlanCalls where
  robin : RoundRobin := {}
  calls : List PlanCall := []
  turns : List Nat := []

inductive PlanStep where
  | begins (key : Option ByteArray) (nodes : List Node) (ring : TokenRing)
  | draws (id : Nat)
  | makes (id : Nat)

namespace PlanCalls

def draw (calls : PlanCalls) (id : Nat) (call : PlanCall) : PlanCalls where
  robin := calls.robin.advance
  calls := calls.calls.set id { call with stage := .drawn calls.robin.cursor }
  turns := calls.turns ++ [id]

def make (calls : PlanCalls) (id : Nat) (call : PlanCall) (number : Nat) : PlanCalls :=
  let stage := match (⟨number⟩ : RoundRobin).plan? call.key call.nodes call.ring with
    | some plan => .made number plan
    | none => .failed number
  { calls with calls := calls.calls.set id { call with stage } }

/-- To take the cursor and to advance it is one step, which no other call can divide. -/
def act (calls : PlanCalls) : PlanStep → PlanCalls
  | .begins key nodes ring => { calls with calls := calls.calls ++ [{ key, nodes, ring }] }
  | .draws id =>
    match calls.calls[id]? with
    | some call =>
      match call.stage with
      | .begun => calls.draw id call
      | _ => calls
    | none => calls
  | .makes id =>
    match calls.calls[id]? with
    | some call =>
      match call.stage with
      | .drawn number => calls.make id call number
      | _ => calls
    | none => calls

def run (calls : PlanCalls) (steps : List PlanStep) : PlanCalls := steps.foldl act calls

def number? (calls : PlanCalls) (id : Nat) : Option Nat := calls.calls[id]?.bind (·.stage.number?)

def drawer? (calls : PlanCalls) (turn : Nat) : Option PlanCall :=
  calls.turns[turn]?.bind (calls.calls[·]?)

/-- Each call that has drawn holds the number of its turn, and its plan, once made, follows it. -/
structure Numbered (calls : PlanCalls) : Prop where
  cursor : calls.robin.cursor = calls.turns.length % UInt64.size
  distinct : calls.turns.Nodup
  numbers : ∀ id number, calls.number? id = some number ↔
    ∃ turn, calls.turns[turn]? = some id ∧ turn % UInt64.size = number
  plans : ∀ call ∈ calls.calls, ∀ number plan, call.stage = .made number plan →
    (⟨number⟩ : RoundRobin).plan? call.key call.nodes call.ring = some plan

theorem act_cases (calls : PlanCalls) (step : PlanStep) :
    calls.act step = calls ∨
    (∃ key nodes ring,
      calls.act step = { calls with calls := calls.calls ++ [{ key, nodes, ring }] }) ∨
    (∃ id call, calls.calls[id]? = some call ∧ call.stage = .begun ∧
      calls.act step = calls.draw id call) ∨
    ∃ id call number, calls.calls[id]? = some call ∧ call.stage = .drawn number ∧
      calls.act step = calls.make id call number := by
  cases step with
  | begins key nodes ring => exact .inr (.inl ⟨key, nodes, ring, rfl⟩)
  | draws id =>
    simp only [act]
    split
    next call known =>
      split
      next begun => exact .inr (.inr (.inl ⟨id, call, known, begun, rfl⟩))
      next => exact .inl rfl
    next => exact .inl rfl
  | makes id =>
    simp only [act]
    split
    next call known =>
      split
      next number drawn => exact .inr (.inr (.inr ⟨id, call, number, known, drawn, rfl⟩))
      next => exact .inl rfl
    next => exact .inl rfl

section Numbers

variable {calls later : PlanCalls} {id : Nat} {call : PlanCall} {stage : PlanStage}

theorem number?_set (known : calls.calls[id]? = some call)
    (changed : later.calls = calls.calls.set id { call with stage }) (other : Nat) :
    later.number? other = if other = id then stage.number? else calls.number? other := by
  have inside : id < calls.calls.length := (List.getElem?_eq_some_iff.1 known).1
  simp only [number?, changed, List.getElem?_set, inside, if_true]
  by_cases same : other = id
  · simp [same]
  · simp [same, Ne.symm same]

theorem Numbered.plans_set (numbered : calls.Numbered)
    (changed : later.calls = calls.calls.set id { call with stage })
    (follows : ∀ number plan, stage = .made number plan →
      (⟨number⟩ : RoundRobin).plan? call.key call.nodes call.ring = some plan) :
    ∀ other ∈ later.calls, ∀ number plan, other.stage = .made number plan →
      (⟨number⟩ : RoundRobin).plan? other.key other.nodes other.ring = some plan := by
  intro other member
  rw [changed] at member
  rcases List.mem_or_eq_of_mem_set member with old | rfl
  · exact numbered.plans other old
  · exact follows

theorem Numbered.begins (numbered : calls.Numbered) (key : Option ByteArray) (nodes : List Node)
    (ring : TokenRing) :
    Numbered { calls with calls := calls.calls ++ [{ key, nodes, ring }] } where
  cursor := numbered.cursor
  distinct := numbered.distinct
  numbers other number := by
    rw [← numbered.numbers]
    simp only [number?, List.getElem?_append]
    split
    next => rfl
    next beyond =>
      rw [List.getElem?_eq_none (Nat.le_of_not_lt beyond)]
      cases other - calls.calls.length <;> simp [PlanStage.number?]
  plans other member number plan made := by
    rcases List.mem_append.1 member with old | new
    · exact numbered.plans other old number plan made
    · rw [List.mem_singleton.1 new] at made
      cases made

theorem turns_concat {turns : List Nat} {turn other : Nat} :
    (turns ++ [id])[turn]? = some other ↔
      turns[turn]? = some other ∨ turn = turns.length ∧ other = id := by
  rcases Nat.lt_trichotomy turn turns.length with old | rfl | beyond
  · simp [List.getElem?_append_left old, Nat.ne_of_lt old]
  · simp [eq_comm]
  · have longer : (turns ++ [id]).length ≤ turn := by simpa using Nat.succ_le_of_lt beyond
    rw [List.getElem?_eq_none longer, List.getElem?_eq_none (Nat.le_of_lt beyond)]
    simp [Nat.ne_of_gt beyond]

theorem Numbered.draw (numbered : calls.Numbered) (known : calls.calls[id]? = some call)
    (begun : call.stage = .begun) : (calls.draw id call).Numbered := by
  have unnumbered : calls.number? id = none := by simp [number?, known, begun, PlanStage.number?]
  -- Whoever has drawn holds a number.
  have fresh : id ∉ calls.turns := by
    intro member
    obtain ⟨turn, there⟩ := List.mem_iff_getElem?.1 member
    cases unnumbered.symm.trans ((numbered.numbers id _).2 ⟨turn, there, rfl⟩)
  constructor
  case cursor =>
    simp only [PlanCalls.draw, RoundRobin.advance, numbered.cursor, List.length_append,
      List.length_singleton, Nat.mod_add_mod]
  case distinct =>
    refine List.nodup_append.2 ⟨numbered.distinct, List.nodup_singleton _, ?_⟩
    rintro one member _ last rfl
    exact fresh (List.mem_singleton.1 last ▸ member)
  case numbers =>
    intro other number
    rw [number?_set known rfl]
    simp only [PlanCalls.draw, turns_concat]
    split
    next same =>
      subst same
      have missing (turn : Nat) : calls.turns[turn]? ≠ some other :=
        fun there => fresh (List.mem_of_getElem? there)
      simp [missing, PlanStage.number?, numbered.cursor]
    next different => simp [different, numbered.numbers]
  case plans => exact numbered.plans_set rfl fun _ _ made => nomatch made

theorem Numbered.make (numbered : calls.Numbered) (known : calls.calls[id]? = some call)
    {number : Nat} (drawn : call.stage = .drawn number) :
    (calls.make id call number).Numbered where
  cursor := numbered.cursor
  distinct := numbered.distinct
  numbers other held := by
    refine Iff.trans ?_ (numbered.numbers other held)
    rw [number?_set known rfl]
    split
    next same =>
      subst same
      cases (⟨number⟩ : RoundRobin).plan? call.key call.nodes call.ring <;>
        simp [number?, known, drawn, PlanStage.number?]
    next => rfl
  plans := numbered.plans_set rfl fun other plan made => by
    split at made
    next done =>
      cases made
      exact done
    next => cases made

end Numbers

theorem Numbered.act {calls : PlanCalls} (numbered : calls.Numbered) (step : PlanStep) :
    (calls.act step).Numbered := by
  rcases act_cases calls step with
    same | ⟨key, nodes, ring, same⟩ | ⟨id, call, known, begun, same⟩ |
      ⟨id, call, number, known, drawn, same⟩
  all_goals rw [same]
  · exact numbered
  · exact numbered.begins key nodes ring
  · exact numbered.draw known begun
  · exact numbered.make known drawn

theorem Numbered.run {calls : PlanCalls} (numbered : calls.Numbered) (steps : List PlanStep) :
    (calls.run steps).Numbered := by
  induction steps generalizing calls with
  | nil => exact numbered
  | cons step steps ih => exact ih (numbered.act step)

theorem numbered_start : Numbered {} where
  cursor := rfl
  distinct := List.nodup_nil
  numbers := by simp [number?]
  plans := by simp

theorem Numbered.apart {calls : PlanCalls} (numbered : calls.Numbered) {first second : Nat}
    {one other : Nat} (before : calls.turns[first]? = some one)
    (after : calls.turns[second]? = some other) (order : first < second)
    (near : second < first + UInt64.size) : calls.number? one ≠ calls.number? other := by
  rw [(numbered.numbers one _).2 ⟨first, before, rfl⟩,
    (numbered.numbers other _).2 ⟨second, after, rfl⟩]
  intro same
  have whole : UInt64.size ∣ second - first :=
    (Nat.modEq_iff_dvd' (Nat.le_of_lt order)).1 (Option.some.inj same)
  exact absurd (Nat.le_of_dvd (by omega) whole) (by omega)

theorem Numbered.made {calls : PlanCalls} (numbered : calls.Numbered) {turn : Nat} {call : PlanCall}
    (drew : calls.drawer? turn = some call) (finished : call.stage.plan?.isSome = true) :
    (calls.drawer? turn).bind (·.stage.plan?) =
      (⟨turn % UInt64.size⟩ : RoundRobin).plan? call.key call.nodes call.ring := by
  obtain ⟨id, there, known⟩ := Option.bind_eq_some_iff.1 drew
  have held := (numbered.numbers id _).2 ⟨turn, there, rfl⟩
  rw [drew, Option.bind_some]
  rw [number?, known, Option.bind_some] at held
  cases stage : call.stage with
  | begun => simp [stage, PlanStage.plan?] at finished
  | drawn number => simp [stage, PlanStage.plan?] at finished
  | failed number => simp [stage, PlanStage.plan?] at finished
  | made number plan =>
    rw [stage] at held
    cases held
    exact (numbered.plans call (List.mem_of_getElem? known) _ _ stage).symm

end PlanCalls

namespace RoundRobin

theorem advance_iterate {cursor : Nat} {turn : Nat} (fits : cursor + turn < UInt64.size) :
    advance^[turn] ⟨cursor⟩ = ⟨cursor + turn⟩ := by
  induction turn with
  | zero => rfl
  | succ turn ih =>
    rw [Function.iterate_succ_apply', ih (by omega), advance]
    exact congrArg RoundRobin.mk (Nat.mod_eq_of_lt fits)

/-- Let the same nodes be near by and queryable all the time. Of as many plans without a key with
consecutive cursors as there are such nodes, each of them has each of the first places in one. Calls
that overlap draw different numbers, at least within the range of the cursor, and share in the same
way if it is their turn one after the other. -/
theorem plans_share_evenly {α : Type} (mark : Node → α) {near : List α} (distinct : near.Nodup)
    (cursor : Nat) (fits : cursor + near.length ≤ UInt64.size) :
    (∀ (nodes : Nat → List Node) (ring : Nat → TokenRing),
      (∀ turn < near.length, (candidates (nodes turn) .near).map mark = near) →
        SharesEvenly mark near fun turn =>
          (advance^[turn] ⟨cursor⟩).plan? none (nodes turn) (ring turn)) ∧
    ∀ calls steps, calls = PlanCalls.run {} steps →
      (∀ id, (calls.number? id).isSome = true ↔ id ∈ calls.turns) ∧
      (∀ first second one other, calls.turns[first]? = some one →
        calls.turns[second]? = some other → first < second → second < first + UInt64.size →
          calls.number? one ≠ calls.number? other) ∧
      ∀ start, start % UInt64.size = cursor →
        (∀ turn < near.length, ∃ call ∈ calls.drawer? (start + turn), call.key = none ∧
          (candidates call.nodes .near).map mark = near ∧ call.stage.plan?.isSome = true) →
        SharesEvenly mark near fun turn =>
          (calls.drawer? (start + turn)).bind (·.stage.plan?) := by
  refine ⟨fun nodes ring seen => ?_, ?_⟩
  · refine sharesEvenly_of_cursors distinct cursor fun turn bound => ⟨nodes turn, ring turn, ?_⟩
    exact ⟨seen turn bound, by rw [advance_iterate (by omega)]⟩
  rintro calls steps rfl
  have numbered := PlanCalls.numbered_start.run steps
  refine ⟨fun id => ?_, fun first second one other => numbered.apart, fun start same block => ?_⟩
  · simp only [Option.isSome_iff_exists, numbered.numbers, List.mem_iff_getElem?]
    exact ⟨fun ⟨_, turn, there, _⟩ => ⟨turn, there⟩, fun ⟨turn, there⟩ => ⟨_, turn, there, rfl⟩⟩
  refine sharesEvenly_of_cursors distinct cursor fun turn bound => ?_
  obtain ⟨call, drew, unkeyed, seen, finished⟩ := block turn bound
  refine ⟨call.nodes, call.ring, seen, ?_⟩
  -- The cursor does not wrap within the block.
  have number : (start + turn) % UInt64.size = cursor + turn := by
    rw [← Nat.mod_add_mod, same, Nat.mod_eq_of_lt (by omega)]
  have made := numbered.made drew finished
  rwa [number, unkeyed] at made

def staffed : List Node :=
  [⟨0, .v4 0 1, none, [], .near, .up, none⟩, ⟨1, .v4 0 2, none, [], .remote, .up, none⟩,
    ⟨2, .v4 0 3, none, [], .near, .unknown, none⟩, ⟨3, .v4 0 4, none, [], .near, .down, none⟩,
    ⟨4, .v4 0 5, none, [], .near, .up, none⟩]

def overlapping : PlanCalls :=
  .run {} [.begins none staffed {}, .begins (some ByteArray.empty) staffed {}, .draws 1,
    .begins none staffed {}, .draws 2, .begins none staffed {}, .draws 0, .makes 0, .draws 3,
    .makes 3, .makes 2]

theorem overlapping_plans_share :
    SharesEvenly Node.address [.v4 0 1, .v4 0 3, .v4 0 5]
        (fun turn => (advance^[turn] ⟨1⟩).plan? none staffed {}) ∧
      overlapping.turns = [1, 2, 0, 3] ∧ overlapping.number? 2 ≠ overlapping.number? 3 ∧
      SharesEvenly Node.address [.v4 0 1, .v4 0 3, .v4 0 5] (fun turn =>
        (overlapping.drawer? (1 + turn)).bind (·.stage.plan?)) ∧
      ((List.range 3).map fun turn => ((overlapping.drawer? (1 + turn)).bind (·.stage.plan?)).bind
        fun plan => plan.remaining.head?.map (·.address)) =
        [some (.v4 0 3), some (.v4 0 5), some (.v4 0 1)] := by
  have distinct : ([.v4 0 1, .v4 0 3, .v4 0 5] : List SocketAddress).Nodup := by decide
  obtain ⟨alone, together⟩ := plans_share_evenly Node.address distinct 1 (by decide)
  obtain ⟨-, apart, share⟩ := together overlapping _ rfl
  refine ⟨alone (fun _ => staffed) (fun _ => {}) (by decide), by decide, ?_, ?_, by decide⟩
  · exact apart 1 3 2 3 rfl rfl (by decide) (by decide)
  · exact share 1 rfl (by decide)

end RoundRobin

end ClusterDriver
