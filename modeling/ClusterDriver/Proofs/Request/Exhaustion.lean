import ClusterDriver.Proofs.Request.Budget
import ClusterDriver.Proofs.Request.Paths

set_option autoImplicit false

namespace ClusterDriver

theorem AttemptRecord.calls_of_not_final {record : AttemptRecord} {returnsRows : Bool}
    (judged : record.Judged returnsRows) (again : record.isFinal = false) :
    record.Calls .retrySameNode ∨ record.Calls .retryNextNode := by
  simp only [isFinal, Bool.or_eq_false_iff, decide_eq_false_iff_not, Option.isNone_eq_false_iff]
    at again
  obtain ⟨⟨failed, notRethrown⟩, notIgnored⟩ := again
  have error : record.error ≠ none := Option.isSome_iff_ne_none.1 failed
  obtain ⟨decision, decided⟩ := Option.isSome_iff_exists.1 (judged.decided.trans failed)
  cases decision with
  | retrySameNode =>
    refine .inl ⟨error, decided, fun detail transport => ?_⟩
    exact absurd decided (judged.transport detail transport)
  | retryNextNode => exact .inr ⟨error, decided, fun _ _ => rfl⟩
  | rethrow => exact absurd decided notRethrown
  | ignore => exact absurd decided notIgnored

/-- Whether an execution has a node in hand with this address, of which nothing is recorded yet. -/
def Execution.holds (address : SocketAddress) (execution : Execution) : Nat :=
  match execution.stage with
  | .acquiring _ node _ | .awaiting node _ _ _ => if node.address = address then 1 else 0
  | _ => 0

namespace Run

variable {σ : Type} {cluster : Cluster σ} {run after : Run} {execution next : Execution}
  {around later : σ}

def planned (address : SocketAddress) (plan : Plan) : Nat :=
  (plan.remaining.map (·.address)).count address

/-- How often an address is left in the plan, was refused, and has failed an attempt. -/
def seen (address : SocketAddress) (run : Run) : Nat :=
  planned address run.plan + (run.nodeErrors.map (·.1)).count address +
    (nodesOf run.context.attempts).count address

theorem Advanced.seen (address : SocketAddress)
    (advanced : Advanced cluster run execution around (.onward next) after later) :
    run.seen address + execution.holds address ≤ after.seen address + next.holds address := by
  cases advanced with
  | begins stage => simp [Run.seen, Execution.holds, stage, enter]
  | unusable stage candidate =>
    cases candidate with
    | same => simp [Run.seen, Execution.holds, stage, noteNodeError]
    | next planned =>
      simp only [Run.seen, Run.planned, Execution.holds, stage, noteNodeError, planned,
        List.map_append, List.map_cons, List.map_nil, List.count_append, List.count_cons,
        List.count_nil, beq_iff_eq]
      omega
  | usable stage candidate =>
    cases candidate with
    | same => simp [Run.seen, Execution.holds, stage]
    | next planned =>
      simp only [Run.seen, Run.planned, Execution.holds, stage, planned, List.map_cons,
        List.count_cons, beq_iff_eq]
      omega
  | refused stage =>
    simp only [Run.seen, Execution.holds, stage, noteNodeError, List.map_append, List.map_cons,
      List.map_nil, List.count_append, List.count_cons, List.count_nil, beq_iff_eq]
    omega
  | sends stage => simp [Run.seen, Execution.holds, stage, dispatched, enter, record]
  | retries stage =>
    simp only [Run.seen, Execution.holds, stage, Run.retried, settled, enter, record,
      RequestContext.recordAttempt, RequestContext.attempts_enter, attemptRecord, nodesOf_append,
      List.count_append, List.count_cons, List.count_nil, beq_iff_eq]
    omega

theorem Stops.holds {how : ExecutionEnd} (stops : Stops cluster run execution around how)
    (address : SocketAddress) : execution.holds address = 0 := by
  cases stops with
  | expired stage => simp [Execution.holds, stage]
  | exhausted stage => simp [Execution.holds, stage]

theorem resultOfEnd_noNode {how : ExecutionEnd} {errors : List (SocketAddress × String)}
    (result : run.resultOfEnd how = .error (.noNodeAvailable errors)) :
    how = .exhausted ∧ errors = run.nodeErrors := by
  cases how with
  | exhausted =>
    cases result
    exact ⟨rfl, rfl⟩
  | rethrow node cause => cases cause <;> cases result
  | success => cases result
  | ignored => cases result
  | expired => cases result

/-- Each place of a plan is still left, was refused, has failed an attempt or is in the hands of an
execution. -/
def Accounted (plan : Plan) (run : Run) : Prop :=
  ∀ address, planned address plan ≤
    run.seen address + totalOf (Execution.holds address) run.executions

namespace Accounted

variable {plan : Plan}

theorem onward (accounted : run.Accounted plan) (numbered : run.Numbered)
    (running : execution ∈ run.executions)
    (advanced : Advanced cluster run execution around (.onward next) after later) :
    (after.update next).Accounted plan := by
  intro address
  have executions := advanced.updated
  have moved := totalOf_replaced (Execution.holds address) numbered.unique running advanced.number
  have kept := advanced.seen address
  have before := accounted address
  have seen : (after.update next).seen address = after.seen address := rfl
  rw [executions, seen]
  omega

theorem stops {how : ExecutionEnd} (accounted : run.Accounted plan) (numbered : run.Numbered)
    (running : execution ∈ run.executions) (stops : Stops cluster run execution around how) :
    (run.remove execution.number).Accounted plan := by
  intro address
  have moved := totalOf_without (Execution.holds address) numbered.unique running
  have before := accounted address
  have nothing := stops.holds address
  have seen : (run.remove execution.number).seen address = run.seen address := rfl
  rw [seen]
  simp only [remove]
  omega

theorem startExecution (accounted : run.Accounted plan) (now : Nat) :
    (run.startExecution now).Accounted plan := by
  intro address
  have before := accounted address
  have seen : (run.startExecution now).seen address = run.seen address := rfl
  rw [seen]
  simpa [Run.startExecution, Execution.holds] using before

end Accounted

/-- The turn with which a request ends for want of a node is that of its last execution, which has
found the plan empty. -/
structure Drains (last : Run) (execution : Execution) (errors : List (SocketAddress × String))
    (trace : Trace) : Prop where
  unfinished : last.finished = false
  alone : last.executions = [execution]
  stage : ∃ retryingOn, execution.stage = .seeking retryingOn none
  planned : last.plan.remaining = []
  errors : errors = last.nodeErrors
  attempts : trace.attempts = last.context.attempts

theorem Driven.drains {outcome : Outcome} {errors : List (SocketAddress × String)}
    (driven : Driven cluster run execution around after later)
    (running : execution ∈ run.executions) (numbered : run.Numbered)
    (pending : run.context.Pending) (unfinished : run.finished = false)
    (ended : after.context.outcome = some outcome)
    (result : outcome.result = .error (.noNodeAvailable errors)) :
    run.Drains execution errors outcome.trace := by
  have goesOn {progress : Progress} {middle : Run} {informed : σ}
      (step : run.advance cluster execution around = (progress, middle, informed)) :
      middle.context.Pending := by
    have onward := advance_onward cluster run execution around
    rw [step] at onward
    exact onward.pending pending
  cases driven with
  | onward step => cases (goesOn step).unresolved.symm.trans ended
  | waits => cases pending.unresolved.symm.trans ended
  | stops => cases pending.unresolved.symm.trans ended
  | ends step last =>
    obtain rfl := Option.some.inj (((goesOn step).outcome_resolve _ _).symm.trans ended)
    obtain ⟨rfl, errors⟩ := resultOfEnd_noNode result
    -- Only an execution that has found the plan empty ends without a verdict.
    cases advanced_of_step step with
    | fails _ _ _ givesUp => cases givesUp
    | exhausted stage planned =>
      refine ⟨unfinished, ?_, ⟨_, stage⟩, planned, errors, rfl⟩
      have none_left := last (.exhausted stage planned)
      have one := length_without numbered.unique running
      simp only [remove] at none_left
      rw [none_left] at one
      obtain ⟨other, alone⟩ := List.length_eq_one_iff.1 one.symm
      rw [alone, List.mem_singleton] at running
      rw [alone, running]

namespace Course

variable {registry : ProfileRegistry} {codec : Codec} {request : Request}
  {options : RequestOptions} {plan : Plan} {first : Run} {start : σ} {history : List (Moment σ)}

theorem accounted (course : Course cluster first start history run around)
    (begins : Begins registry codec request options plan first)
    (unfinished : run.finished = false) : run.Accounted plan := by
  induction course with
  | opens =>
    intro address
    have seen : planned address plan ≤ first.seen address := by
      rw [Run.seen, begins.initial.plan]
      omega
    omega
  | changes _ _ ih => exact ih unfinished
  | wakes _ _ ih => exact ih unfinished
  | cancels _ ih => exact ih unfinished
  | turns course earlier taken ih =>
    have before := ih earlier
    have numbered := course.numbered begins
    cases take?_taken taken with
    | cancelled => cases unfinished
    | expired => cases unfinished
    | missed unknown =>
      intro address
      rw [remove_unknown unknown]
      exact before address
    | calmed => exact before
    | speculated =>
      apply Accounted.startExecution
      intro address
      -- Speculation has taken nothing from the plan yet.
      have still := before address
      simpa [Run.seen, enter, record, RequestContext.recordSpeculation] using still
    | driven found driven =>
      have running := List.mem_of_find?_eq_some found
      cases driven with
      | onward step => exact before.onward numbered running (advanced_of_step step)
      | waits =>
        rw [update_self numbered.unique running]
        exact before
      | stops _ stops => exact before.stops numbered running stops
      | ends => cases unfinished

theorem drained {outcome : Outcome} {errors : List (SocketAddress × String)}
    (course : Course cluster first start history run around)
    (begins : Begins registry codec request options plan first)
    (ended : run.context.outcome = some outcome)
    (result : outcome.result = .error (.noNodeAvailable errors)) :
    ∃ before last around execution,
      history = before ++ [⟨last, around, .execution execution.number⟩] ∧
      Course cluster first start before last around ∧
      last.Drains execution errors outcome.trace := by
  induction course with
  | opens => cases begins.initial.fresh.pending.unresolved.symm.trans ended
  | changes _ _ ih => exact ih ended
  | wakes _ _ ih => exact ih ended
  | cancels _ ih => exact ih ended
  | @turns history run after around later turn course unfinished taken ih =>
    have pending := course.pending begins.initial unfinished
    cases take?_taken taken with
    | cancelled =>
      obtain rfl := Option.some.inj ((pending.outcome_resolve _ _).symm.trans ended)
      cases result
    | expired =>
      obtain rfl := Option.some.inj ((pending.outcome_resolve _ _).symm.trans ended)
      cases result
    | missed => cases pending.unresolved.symm.trans ended
    | calmed => cases pending.unresolved.symm.trans ended
    | speculated =>
      have unresolved := (RequestContext.outcome_enter run.context.recordSpeculation
        .speculating).trans pending.unresolved
      cases unresolved.symm.trans ended
    | driven found driven =>
      have running := List.mem_of_find?_eq_some found
      exact ⟨history, run, around, _, rfl, course,
        driven.drains running (course.numbered begins) pending unfinished ended result⟩

end Course

theorem Drains.shows_nothing {last : Run} {errors : List (SocketAddress × String)} {trace : Trace}
    (drains : last.Drains execution errors trace) (cluster : Cluster σ) (around : σ) :
    pulls [Moment.mk last around (.execution execution.number)] = [] ∧
      refusals cluster [Moment.mk last around (.execution execution.number)] = [] := by
  obtain ⟨retryingOn, stage⟩ := drains.stage
  constructor
  · simp [pulls, Moment.execution?, pulled?, drains.alone, stage, drains.planned]
  · simp [refusals, Moment.execution?, refusal?, drains.alone, stage, drains.planned]

structure Exhausted (cluster : Cluster σ) (plan : Plan) (errors : List (SocketAddress × String))
    (trace : Trace) (history : List (Moment σ)) : Prop where
  last : ∃ before last around execution,
    history = before ++ [⟨last, around, .execution execution.number⟩] ∧
    last.Drains execution errors trace
  pulled : (pulls history).map (·.2) = plan.remaining
  refused : errors = refusals cluster history
  counted : ∀ address, planned address plan ≤
    (errors.map (·.1)).count address + (nodesOf trace.attempts).count address

theorem Course.exhausted {registry : ProfileRegistry} {codec : Codec} {request : Request}
    {options : RequestOptions} {plan : Plan} {first : Run} {start : σ} {history : List (Moment σ)}
    {outcome : Outcome} {errors : List (SocketAddress × String)}
    (course : Course cluster first start history run around)
    (begins : Begins registry codec request options plan first)
    (ended : run.context.outcome = some outcome)
    (result : outcome.result = .error (.noNodeAvailable errors)) :
    Exhausted cluster plan errors outcome.trace history := by
  obtain ⟨before, last, around, execution, rfl, earlier, drains⟩ := course.drained begins ended result
  obtain ⟨noPull, noRefusal⟩ := drains.shows_nothing cluster around
  have initial := begins.initial
  have pulled := earlier.pulls_remaining
  have refused := earlier.refusals_nodeErrors
  rw [drains.planned, initial.plan, List.append_nil] at pulled
  rw [initial.nodeErrors, List.nil_append, ← drains.errors] at refused
  refine ⟨⟨before, last, around, execution, rfl, drains⟩, ?_, ?_, fun address => ?_⟩
  · rw [pulls, List.filterMap_append, ← pulls, ← pulls, noPull, List.append_nil, pulled]
  · rw [refusals, List.filterMap_append, ← refusals, ← refusals, noRefusal, List.append_nil, refused]
  · have accounted := earlier.accounted begins drains.unfinished address
    obtain ⟨retryingOn, stage⟩ := drains.stage
    have left : planned address last.plan = 0 := by simp [planned, drains.planned]
    have held : totalOf (Execution.holds address) last.executions = 0 := by
      simp [drains.alone, Execution.holds, stage]
    rwa [seen, left, held, Nat.add_zero, Nat.zero_add, ← drains.errors, ← drains.attempts]
      at accounted

end Run

namespace Life

variable {σ : Type} {cluster : Cluster σ} {registry : ProfileRegistry} {codec : Codec}

theorem Given.runs_out {plan : Plan} {life : Life σ} {outcome : Outcome}
    {errors : List (SocketAddress × String)} (given : life.Given cluster registry codec plan)
    (ended : life.submission.context.outcome = some outcome)
    (result : outcome.result = .error (.noNodeAvailable errors)) :
    ∃ run history, life.Traced cluster registry codec plan history run := by
  rcases given.traced with ⟨idle, _⟩ | ⟨history, run, traced⟩
  · have untried := (given.reached.lasts (Run.prepared_lasting cluster registry codec _ _)).idle
      idle
    obtain ⟨cause, failed, untimely, _⟩ := untried.outcome outcome ended
    cases failed.symm.trans result
    cases untimely
  · exact ⟨run, history, traced⟩

theorem Traced.exhausted {plan : Plan} {life : Life σ} {history : List (Run.Moment σ)} {run : Run}
    {outcome : Outcome} {errors : List (SocketAddress × String)}
    (traced : life.Traced cluster registry codec plan history run)
    (ended : life.submission.context.outcome = some outcome)
    (result : outcome.result = .error (.noNodeAvailable errors)) :
    Run.Exhausted cluster plan errors outcome.trace history := by
  obtain ⟨underWay, first, start, begins, course⟩ := traced
  obtain ⟨own, _, rfl⟩ := Option.map_eq_some_iff.1 underWay
  exact course.exhausted begins ended result

theorem Reached.calls {life : Life σ} (reached : life.Reached cluster registry codec)
    {outcome : Outcome} {errors : List (SocketAddress × String)}
    (ended : life.submission.context.outcome = some outcome)
    (result : outcome.result = .error (.noNodeAvailable errors)) :
    ∀ record ∈ outcome.trace.attempts,
      record.Calls .retrySameNode ∨ record.Calls .retryNextNode := by
  intro record member
  have concluded := reached.concluded
  rw [(concluded.outcome ended).1] at member
  refine AttemptRecord.calls_of_not_final (reached.judged record member) ?_
  cases concluded with
  | undecided unresolved => cases unresolved.symm.trans ended
  | settled _ _ settles resolved =>
    obtain rfl := Option.some.inj (resolved.symm.trans ended)
    cases result
    cases settles
  | spent retried => exact retried record member

theorem mem_of_planned {plan : Plan} {node : Node} (member : node ∈ plan.remaining)
    {errors : List (SocketAddress × String)} {records : List AttemptRecord}
    (counted : Run.planned node.address plan ≤
      (errors.map (·.1)).count node.address + (nodesOf records).count node.address) :
    node.address ∈ errors.map (·.1) ∨ ∃ record ∈ records, record.node = node.address := by
  have planned : 0 < Run.planned node.address plan :=
    List.count_pos_iff.2 (List.mem_map_of_mem member)
  by_cases refused : node.address ∈ errors.map (·.1)
  · exact .inl refused
  · rw [List.count_eq_zero_of_not_mem refused, Nat.zero_add] at counted
    obtain ⟨record, recorded, same⟩ :=
      List.mem_map.1 (List.count_pos_iff.1 (Nat.lt_of_lt_of_le planned counted))
    exact .inr ⟨record, recorded, same⟩

/-- A request ends for want of a node only when its last execution has found the plan empty. By then
every node of the plan was taken, and each has either refused, which the error tells in order, or
failed an attempt that called for another one. -/
theorem Given.no_node_left {plan : Plan} {life : Life σ} {outcome : Outcome}
    {errors : List (SocketAddress × String)} (given : life.Given cluster registry codec plan)
    (ended : life.submission.context.outcome = some outcome)
    (result : outcome.result = .error (.noNodeAvailable errors)) :
    (∃ run history, life.Traced cluster registry codec plan history run) ∧
      (∀ run history, life.Traced cluster registry codec plan history run →
        Run.Exhausted cluster plan errors outcome.trace history) ∧
      (∀ record ∈ outcome.trace.attempts,
        record.Calls .retrySameNode ∨ record.Calls .retryNextNode) ∧
      ∀ node ∈ plan.remaining, node.address ∈ errors.map (·.1) ∨
        ∃ record ∈ outcome.trace.attempts, record.node = node.address := by
  obtain ⟨run, history, traced⟩ := given.runs_out ended result
  have counted := (traced.exhausted ended result).counted
  refine ⟨⟨run, history, traced⟩, fun _ _ traced => traced.exhausted ended result,
    given.reached.calls ended result, fun node member => mem_of_planned member (counted _)⟩

def without (host : UInt32) (nodes : List Node) : Cluster Script :=
  { scripted nodes with
    pool := fun node around =>
      if node.address = (nodeAt host).address then (.error "node is down", around)
      else (.ok 0, around) }

def forsaken : Life Script :=
  (submitted (.query ByteArray.empty) {} 1 0 100 { replies := [errorReply .overloaded] }).act
    (without 1 [nodeAt 1, nodeAt 2]) (deciding [.retryNextNode]) .passThrough .start

theorem forsaken_no_node_left :
    forsaken.Given (without 1 [nodeAt 1, nodeAt 2]) (deciding [.retryNextNode]) .passThrough
        ⟨[nodeAt 1, nodeAt 2]⟩ ∧
      ∃ outcome, forsaken.submission.context.outcome = some outcome ∧
        outcome.result =
          .error (.noNodeAvailable [((nodeAt 1).address, "node is down")]) ∧
        nodesOf outcome.trace.attempts = [(nodeAt 2).address] ∧
        ∃ run history, forsaken.Traced (without 1 [nodeAt 1, nodeAt 2])
            (deciding [.retryNextNode]) .passThrough ⟨[nodeAt 1, nodeAt 2]⟩ history run ∧
          Run.Exhausted (without 1 [nodeAt 1, nodeAt 2]) ⟨[nodeAt 1, nodeAt 2]⟩
            [((nodeAt 1).address, "node is down")] outcome.trace history := by
  have given : forsaken.Given (without 1 [nodeAt 1, nodeAt 2]) (deciding [.retryNextNode])
      .passThrough ⟨[nodeAt 1, nodeAt 2]⟩ := .started ⟨_, _, _, _, _, _, [], rfl⟩ rfl rfl
  obtain ⟨outcome, ended, result, tried⟩ : ∃ outcome,
      forsaken.submission.context.outcome = some outcome ∧
        outcome.result = .error (.noNodeAvailable [((nodeAt 1).address, "node is down")]) ∧
        nodesOf outcome.trace.attempts = [(nodeAt 2).address] := ⟨_, rfl, rfl, rfl⟩
  obtain ⟨⟨run, history, traced⟩, exhausted, _⟩ := given.no_node_left ended result
  exact ⟨given, outcome, ended, result, tried, run, history, traced,
    exhausted run history traced⟩

theorem Traced.sent {plan : Plan} {life : Life σ} {history : List (Run.Moment σ)} {run : Run}
    (traced : life.Traced cluster registry codec plan history run) :
    life.submission.sent = run.attempts := by
  obtain ⟨own, same, rfl⟩ := Option.map_eq_some_iff.1 traced.underWay
  simp [Submission.sent, same]

theorem Traced.unsent {plan : Plan} {life : Life σ} {history : List (Run.Moment σ)} {run : Run}
    (traced : life.Traced cluster registry codec plan history run) (empty : plan.remaining = []) :
    life.submission.sent = 0 := by
  rw [traced.sent]
  obtain ⟨_, first, start, begins, course⟩ := traced
  have spent := (course.budgeted begins).spent
  have nothing : first.reserve = 0 := by simp [Run.reserve, begins.initial.plan, empty]
  rw [Run.used] at spent
  omega

/-- What the error for want of a node tells is who refused, and nothing of failed attempts. If it
tells nothing, each node of the plan has been tried in vain, so that there was no attempt only if
there was no node. -/
theorem Given.tells_refusals_only {plan : Plan} {life : Life σ} {outcome : Outcome}
    {errors : List (SocketAddress × String)} (given : life.Given cluster registry codec plan)
    (ended : life.submission.context.outcome = some outcome)
    (result : outcome.result = .error (.noNodeAvailable errors)) :
    (∀ run history, life.Traced cluster registry codec plan history run →
        errors = Run.refusals cluster history) ∧
      (errors = [] →
        (∀ node ∈ plan.remaining, ∃ record ∈ outcome.trace.attempts,
          record.node = node.address ∧ record.error ≠ none) ∧
        (life.submission.sent = 0 ↔ plan.remaining = [])) := by
  obtain ⟨run, history, traced⟩ := given.runs_out ended result
  have exhausted := traced.exhausted ended result
  refine ⟨fun _ _ traced => (traced.exhausted ended result).refused, ?_⟩
  rintro rfl
  have tried : ∀ node ∈ plan.remaining, ∃ record ∈ outcome.trace.attempts,
      record.node = node.address := by
    intro node member
    exact (mem_of_planned member (exhausted.counted _)).resolve_left (by simp)
  refine ⟨fun node member => ?_, fun unsent => ?_, traced.unsent⟩
  · obtain ⟨record, recorded, same⟩ := tried node member
    refine ⟨record, recorded, same, ?_⟩
    rcases given.reached.calls ended result record recorded with again | next
    · exact again.failed
    · exact next.failed
  · -- The first node of the plan would have had an attempt.
    refine List.eq_nil_iff_forall_not_mem.2 fun node member => ?_
    obtain ⟨record, recorded, _⟩ := tried node member
    rw [(given.reached.concluded.outcome ended).1] at recorded
    obtain ⟨own, _, same⟩ := Option.map_eq_some_iff.1 traced.underWay
    obtain ⟨_, first, last⟩ := (given.reached.numbered traced.underWay).recorded record
      (by rw [← same]; exact recorded)
    rw [traced.sent] at unsent
    omega

def overloaded : Life Script :=
  (submitted (.query ByteArray.empty) {} 1 0 100 { replies := [errorReply .overloaded] }).act
    (scripted [nodeAt 1]) (deciding [.retryNextNode]) .passThrough .start

theorem overloaded_tells_nothing :
    overloaded.Given (scripted [nodeAt 1]) (deciding [.retryNextNode]) .passThrough
        ⟨[nodeAt 1]⟩ ∧
      overloaded.submission.sent = 1 ∧ ∃ outcome,
        overloaded.submission.context.outcome = some outcome ∧
        outcome.result = .error (.noNodeAvailable []) ∧
        (RequestError.noNodeAvailable []).message = "No node available (no node was tried)" :=
  ⟨.started ⟨_, _, _, _, _, _, [], rfl⟩ rfl rfl, rfl, _, rfl, rfl, rfl⟩

theorem overloaded_tells_refusals_only :
    overloaded.Given (scripted [nodeAt 1]) (deciding [.retryNextNode]) .passThrough
        ⟨[nodeAt 1]⟩ ∧
      ∃ outcome, overloaded.submission.context.outcome = some outcome ∧
        outcome.result = .error (.noNodeAvailable []) ∧
        ∃ record ∈ outcome.trace.attempts,
          record.node = (nodeAt 1).address ∧ record.error ≠ none := by
  have given : overloaded.Given (scripted [nodeAt 1]) (deciding [.retryNextNode]) .passThrough
      ⟨[nodeAt 1]⟩ := .started ⟨_, _, _, _, _, _, [], rfl⟩ rfl rfl
  obtain ⟨outcome, ended, result⟩ : ∃ outcome,
      overloaded.submission.context.outcome = some outcome ∧
        outcome.result = .error (.noNodeAvailable []) := ⟨_, rfl, rfl⟩
  obtain ⟨_, silent⟩ := given.tells_refusals_only ended result
  exact ⟨given, outcome, ended, result, (silent rfl).1 (nodeAt 1) List.mem_cons_self⟩

end Life

end ClusterDriver
