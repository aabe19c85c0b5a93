import ClusterDriver.Proofs.Request.Load
import ClusterDriver.Proofs.Request.Wires

set_option autoImplicit false

namespace ClusterDriver

variable {σ : Type} {cluster : Cluster σ} {wires : σ → Wires}

/-- The surroundings of a request deal with its connections in no other way than these allow: what
is sent is sent over a connection, replies are those that it has completed, and an attempt is
abandoned by a command to it. -/
structure Cluster.Wired (cluster : Cluster σ) (wires : σ → Wires) : Prop where
  plan : ∀ key around, wires (cluster.plan key around).2 = wires around
  pool : ∀ node around, wires (cluster.pool node around).2 = wires around
  countRetryCall : ∀ profile around, wires (cluster.countRetryCall profile around) = wires around
  alarm : ∀ execution due around, wires (cluster.alarm execution due around) = wires around
  dismissAlarms : ∀ execution around, wires (cluster.dismissAlarms execution around) = wires around
  send : ∀ execution pool opcode body around,
    wires (cluster.send? execution pool opcode body around).2 =
      (wires around).afterSend opcode body (cluster.send? execution pool opcode body around).1
  accepted : ∀ execution pool opcode body around handle,
    (cluster.send? execution pool opcode body around).1 = some (.ok handle) →
      ∃ channel, ((wires around).lineOf handle).history.channel.send opcode body =
        .ok (handle.request, channel)
  reply : ∀ execution handle around,
    wires (cluster.reply? execution handle around).2 =
      (wires around).afterReply handle (cluster.reply? execution handle around).1
  told : ∀ execution handle around reply,
    (cluster.reply? execution handle around).1 = some reply →
      (handle.request, reply) ∈ ((wires around).lineOf handle).history.completed
  abandon : ∀ handle around, wires (cluster.abandon handle around) = (wires around).abandon handle

theorem Wires.settles_of_told {wires : Wires} {handle : Handle} {reply : Reply}
    (told : (handle.request, reply) ∈ (wires.lineOf handle).history.completed) :
    wires.Settles handle := by
  left
  simp only [History.isCompleted, decide_eq_true_eq, List.mem_map]
  exact ⟨_, told, rfl⟩

namespace Run

variable {run after : Run} {execution next : Execution} {around later : σ}

section Turns

variable (wired : cluster.Wired wires)

include wired

theorem wires_abandonAll (handles : List Handle) (around : σ) :
    wires (handles.foldl (fun around handle => cluster.abandon handle around) around) =
      handles.foldl Wires.abandon (wires around) := by
  induction handles generalizing around with
  | nil => rfl
  | cons handle rest ih =>
    rw [List.foldl_cons, List.foldl_cons, ih, wired.abandon]

theorem wires_decide {cause : AttemptError} {retries : Nat} {decision : RetryDecision}
    (decided : run.decide cluster cause retries around = (decision, later)) :
    wires later = wires around := by
  unfold decide at decided
  split at decided
  next =>
    cases decided
    rfl
  next =>
    cases decided
    exact wired.countRetryCall _ _

theorem replied_settles {number : Nat} {handle : Handle} {reply : Reply}
    (replied : cluster.reply? number handle around = (some reply, later)) :
    Wires.Onward (· ≠ handle) (wires around) (wires (cluster.dismissAlarms number later)) ∧
      (wires (cluster.dismissAlarms number later)).Settles handle := by
  have heard := wired.reply number handle around
  have told := wired.told number handle around reply
  rw [replied] at heard told
  rw [wired.dismissAlarms, heard]
  exact ⟨.drop (wires around) handle, Wires.settles_of_told (told rfl)⟩

theorem Failure.settles {number started : Nat} {handle : Handle} {cause : AttemptError}
    (failure : Failure cluster run number around started handle cause later)
    (issued : (wires around).Issued handle) (waits : handle ∈ (wires around).waiting) :
    Wires.Onward (· ≠ handle) (wires around) (wires later) ∧ (wires later).Settles handle := by
  cases failure with
  | reply replied => exact replied_settles wired replied
  | overdue silent =>
    have heard := wired.reply number handle around
    rw [silent] at heard
    rw [wired.abandon, heard]
    exact ⟨.abandon (wires around) handle, Wires.abandon_settles issued waits⟩

theorem finish_custody (custody : Custody run.executions run.attempts (wires around))
    (result : Except RequestError Success) :
    Custody (run.finish cluster result around).1.executions
      (run.finish cluster result around).1.attempts
      (wires (run.finish cluster result around).2) := by
  have finished := custody.finishes
  rwa [← wires_abandonAll wired] at finished

theorem Failure.hears {few : List Execution} {number started : Nat} {handle : Handle}
    {cause : AttemptError} {informed : σ} {decision : RetryDecision}
    (failure : Failure cluster run number around started handle cause informed)
    (decided : run.decide cluster cause execution.sameNodeRetries informed = (decision, later))
    (custody : Custody run.executions run.attempts (wires around))
    (unique : (run.executions.map (·.number)).Nodup) (running : execution ∈ run.executions)
    (awaits : execution.handle? = some handle)
    (without : Without execution.number run.executions few) :
    Custody few run.attempts (wires later) := by
  obtain ⟨waits, sent⟩ := custody.held execution running handle awaits
  obtain ⟨onward, settles⟩ := failure.settles wired (custody.issued handle sent) waits
  rw [wires_decide wired decided]
  exact custody.hears unique running without awaits onward settles

theorem Advanced.keeps_custody (custody : Custody run.executions run.attempts (wires around))
    (unique : (run.executions.map (·.number)).Nodup) (running : execution ∈ run.executions)
    (advanced : Advanced cluster run execution around (.onward next) after later) :
    Custody (after.update next).executions (after.update next).attempts (wires later) := by
  have without (idle : next.handle? = none) := without_replaced run.executions advanced.number idle
  rw [advanced.updated]
  -- Only sending adds to what the request has to settle; an attempt that has failed is settled.
  cases advanced with
  | begins stage =>
    exact custody.idles unique running (without rfl) (congrArg Stage.handle? stage) rfl
  | @unusable _ _ node _ _ _ stage _ refused =>
    have same := wired.pool node around
    rw [refused] at same
    exact custody.idles unique running (without rfl) (congrArg Stage.handle? stage) same
  | @usable _ _ node _ _ _ stage _ found =>
    have same := wired.pool node around
    rw [found] at same
    exact custody.idles unique running (without rfl) (congrArg Stage.handle? stage) same
  | @refused _ _ pool _ _ stage refused =>
    have same := wired.send execution.number pool run.opcode run.body around
    rw [refused] at same
    exact custody.idles unique running (without rfl) (congrArg Stage.handle? stage) same
  | @sends _ _ pool handle _ stage sent =>
    have gives := wired.send execution.number pool run.opcode run.body around
    have accepted := wired.accepted execution.number pool run.opcode run.body around handle
    rw [sent] at gives accepted
    obtain ⟨channel, accepted⟩ := accepted rfl
    rw [gives]
    refine custody.sends unique running ?_ (congrArg Stage.handle? stage) ?_ accepted
    · rfl
    · rfl
  | retries stage failure decided =>
    exact failure.hears wired decided custody unique running (congrArg Stage.handle? stage)
      (without rfl)

theorem Advanced.ends_custody (custody : Custody run.executions run.attempts (wires around))
    (unique : (run.executions.map (·.number)).Nodup) (running : execution ∈ run.executions)
    {how : ExecutionEnd}
    (advanced : Advanced cluster run execution around (.ended how) after later) :
    Custody (after.remove execution.number).executions (after.remove execution.number).attempts
      (wires later) := by
  have executions : (after.remove execution.number).executions =
      run.executions.filter fun other => other.number ≠ execution.number := by
    simp only [remove, advanced.executions]
  have attempts : (after.remove execution.number).attempts = run.attempts :=
    advanced.ended_alike.attempts
  have without := without_filter execution.number run.executions
  rw [executions, attempts]
  cases advanced with
  | expired stage =>
    exact custody.idles unique running without (congrArg Stage.handle? stage) rfl
  | exhausted stage =>
    exact custody.idles unique running without (congrArg Stage.handle? stage) rfl
  | succeeds stage replied =>
    obtain ⟨onward, settles⟩ := replied_settles wired replied
    exact custody.hears unique running without (congrArg Stage.handle? stage) onward settles
  | fails stage failure decided =>
    exact failure.hears wired decided custody unique running (congrArg Stage.handle? stage) without

theorem Advanced.waits_custody (custody : Custody run.executions run.attempts (wires around))
    (advanced : Advanced cluster run execution around (.waiting execution) run later) :
    Custody run.executions run.attempts (wires later) := by
  suffices same : wires later = wires around by rwa [same]
  cases advanced with
  | @unconnected _ _ pool _ _ silent =>
    have same := wired.send execution.number pool run.opcode run.body around
    rwa [silent] at same
  | @unanswered _ _ _ handle _ _ silent =>
    have same := wired.reply execution.number handle around
    rw [silent] at same
    rw [wired.alarm, same]
    rfl

theorem Taken.keeps_custody {turn : Turn} (numbered : run.Numbered)
    (custody : Custody run.executions run.attempts (wires around))
    (taken : Taken cluster run around turn after later) :
    Custody after.executions after.attempts (wires later) := by
  have unique := numbered.unique
  cases taken with
  | cancelled => exact finish_custody wired custody _
  | expired => exact finish_custody wired custody _
  | missed unknown =>
    rw [remove_unknown unknown]
    exact custody
  | driven found driven =>
    have running := List.mem_of_find?_eq_some found
    cases driven with
    | onward step => exact (advanced_of_step step).keeps_custody wired custody unique running
    | waits step =>
      have waits := (advanced_of_step step).waits_custody wired custody
      rw [update_self unique running]
      exact waits
    | stops step => exact (advanced_of_step step).ends_custody wired custody unique running
    | ends step =>
      exact finish_custody wired
        ((advanced_of_step step).ends_custody wired custody unique running) _
  | calmed => exact custody
  | speculated => exact custody.starts rfl

theorem steps_custody (limit : Nat) (pending : run.context.Pending) (numbered : run.Numbered)
    (custody : Custody run.executions run.attempts (wires around)) :
    Custody (run.steps cluster limit around).1.executions
      (run.steps cluster limit around).1.attempts (wires (run.steps cluster limit around).2) := by
  induction limit generalizing run around with
  | zero => exact custody
  | succ limit ih =>
    simp only [Run.steps]
    split
    next => exact custody
    next after later turn =>
      obtain ⟨unfinished, turned⟩ := turn?_turned turn
      obtain ⟨_, taken⟩ := turn?_take? turn
      have next := (take?_taken taken).keeps_custody wired numbered custody
      rcases take?_progresses taken pending with onward | ⟨_, ended⟩
      · have still := (numbered_kept cluster).turned pending unfinished numbered turned
        exact ih (onward.pending pending) still next
      · rwa [steps_finished cluster limit later ended.finished]

theorem poll_custody (pending : run.context.Pending) (numbered : run.Numbered)
    (custody : Custody run.executions run.attempts (wires around)) :
    Custody (run.poll cluster around).1.executions (run.poll cluster around).1.attempts
      (wires (run.poll cluster around).2) := by
  rw [← wired.alarm none run.context.deadline] at custody
  have stepped := steps_custody wired run.stepLimit pending numbered custody
  simp only [poll]
  split
  next =>
    rw [wired.alarm]
    exact stepped
  next => exact stepped

end Turns

theorem unstarted_custody {plan : Plan} {wires : Wires} (unstarted : run.Unstarted plan)
    (unsent : wires.sent = []) (now : Nat) :
    Custody (run.startExecution now).executions (run.startExecution now).attempts wires := by
  have before : Custody run.executions run.attempts wires := by
    rw [unstarted.executions, unstarted.attempts]
    exact .empty unsent
  exact before.starts rfl

end Run

def Submission.executions (submission : Submission) : List Execution :=
  (submission.run.map (·.executions)).getD []

namespace Life

variable {registry : ProfileRegistry} {codec : Codec}

def Awaits (life : Life σ) (handle : Handle) : Prop :=
  ∃ execution ∈ life.submission.executions, execution.handle? = some handle

/-- The requests around which all connections go on as connections do, whatever else may happen to
them, and nobody but the request itself takes its handles. -/
inductive Attended (cluster : Cluster σ) (registry : ProfileRegistry) (codec : Codec)
    (wires : σ → Wires) : Life σ → Prop where
  | submitted (request : Request) (options : RequestOptions) (id started timeout : Nat) {around : σ}
      (unsent : (wires around).sent = []) :
      Attended cluster registry codec wires
        (Life.submitted request options id started timeout around)
  | changed {life : Life σ} (attended : Attended cluster registry codec wires life) {later : σ}
      (onward : (wires life.around).Onward life.Awaits (wires later)) :
      Attended cluster registry codec wires (life.act cluster registry codec (.change later))
  | moved {life : Life σ} (attended : Attended cluster registry codec wires life) (move : Move σ)
      (own : ∀ later, move ≠ .change later) :
      Attended cluster registry codec wires (life.act cluster registry codec move)

theorem Attended.reached {life : Life σ} (attended : life.Attended cluster registry codec wires) :
    life.Reached cluster registry codec := by
  induction attended with
  | submitted => exact ⟨_, _, _, _, _, _, [], rfl⟩
  | changed _ _ ih => exact ih.act _
  | moved _ move _ ih => exact ih.act move

def Accounts (wires : σ → Wires) (life : Life σ) : Prop :=
  Custody life.submission.executions life.submission.sent (wires life.around)

theorem Accounts.unsent {life : Life σ} (accounts : life.Accounts wires)
    (idle : life.submission.run = none) : (wires life.around).sent = [] := by
  have counted := accounts.counted
  simpa [Submission.sent, idle] using counted

theorem Accounts.running {life : Life σ} (accounts : life.Accounts wires) {run : Run}
    (underWay : life.submission.current? = some run) :
    Custody run.executions run.attempts (wires life.around) := by
  obtain ⟨own, same, rfl⟩ := Option.map_eq_some_iff.1 underWay
  simpa [Accounts, Submission.executions, Submission.sent, same] using accounts

section Moves

variable {life : Life σ} (wired : cluster.Wired wires)
  (reached : life.Reached cluster registry codec) (accounts : life.Accounts wires)

include wired accounts

theorem begin_accounts (waits : life.waits = true) :
    (life.act cluster registry codec .begin).Accounts wires := by
  have idle := (waits_iff.1 waits).1
  have unsent := accounts.unsent idle
  simp only [act, waits, if_true, Accounts, Submission.begin]
  split
  next => simpa [Submission.executions, Submission.sent, Submission.count, idle] using
      Custody.empty unsent
  next build prepared =>
    have unstarted := Run.prepare_unstarted prepared
      (cluster.plan life.submission.options.routingKey life.around).1
    rw [← wired.plan life.submission.options.routingKey] at unsent
    exact Run.unstarted_custody unstarted unsent _

include reached

theorem poll_accounts : (life.act cluster registry codec .poll).Accounts wires := by
  simp only [act]
  split
  next => exact accounts
  next further =>
    rcases reached.sound.pending_or_over with ⟨pending, _⟩ | ⟨_, _, _, isOver, _⟩
    · cases underWay : life.submission.run with
      | none => simpa [Submission.poll, underWay] using accounts
      | some run =>
        have current : life.submission.current? =
            some { run with context := life.submission.context } := by
          simp [Submission.current?, underWay]
        have polled := Run.poll_custody wired pending (reached.numbered current)
          (accounts.running current)
        simp only [Accounts, Submission.poll, underWay]
        exact polled
    · exact absurd isOver further

theorem turn_accounts (turn : Run.Turn) :
    (life.act cluster registry codec (.turn turn)).Accounts wires := by
  simp only [act, takeTurn]
  split
  next => exact accounts
  next =>
    cases underWay : life.submission.run with
    | none => exact accounts
    | some run =>
      have current : life.submission.current? =
          some { run with context := life.submission.context } := by
        simp [Submission.current?, underWay]
      simp only
      split
      next => exact accounts
      next after later took =>
        exact (Run.take?_taken took).keeps_custody wired (reached.numbered current)
          (accounts.running current)

theorem act_accounts (move : Move σ) (own : ∀ later, move ≠ .change later) :
    (life.act cluster registry codec move).Accounts wires := by
  cases move with
  | change later => exact absurd rfl (own later)
  | wake =>
    cases underWay : life.submission.run <;>
      simpa [act, Accounts, Submission.executions, Submission.sent, underWay] using accounts
  | cancel => exact accounts
  | hold =>
    simp only [act, Submission.hold]
    split
    next => split <;> exact accounts
    next => exact accounts
  | begin =>
    cases waits : life.waits with
    | true => exact begin_accounts wired accounts waits
    | false => simpa [act, waits] using accounts
  | start =>
    cases waits : life.waits with
    | true =>
      rw [act_start waits]
      exact poll_accounts wired (reached.act .begin) (begin_accounts wired accounts waits)
    | false => simpa [act, waits] using accounts
  | poll => exact poll_accounts wired reached accounts
  | turn turn => exact turn_accounts wired reached accounts turn

end Moves

theorem Attended.accounts (wired : cluster.Wired wires) {life : Life σ}
    (attended : life.Attended cluster registry codec wires) : life.Accounts wires := by
  induction attended with
  | submitted _ _ _ _ _ unsent => exact .empty unsent
  | changed _ onward accounts => exact Custody.onward accounts onward
  | moved before move own accounts => exact act_accounts wired before.reached accounts move own

/-- However a request ends, each attempt that it has sent is settled at that moment: its handle has
received the result, or there is a command to abandon it in the queue of its connection. So once the
connection has worked off its queue, the attempt has no place in the tables, and each stream that it
had there has been given back or is an orphan. -/
theorem Attended.leaves_no_attempt (wired : cluster.Wired wires) {life : Life σ}
    (attended : life.Attended cluster registry codec wires)
    (ended : life.submission.context.outcome ≠ none) :
    (wires life.around).sent.length = life.submission.sent ∧
      ∀ handle ∈ (wires life.around).sent,
        (((wires life.around).lineOf handle).history.isCompleted handle.request ∨
          ((wires life.around).lineOf handle).Abandons handle.request) ∧
        ∀ later, ((wires life.around).lineOf handle).Before later →
          .abandon handle.request ∉ later.history.channel.commands →
            handle.request ∉ later.history.channel.waiting ∧
            ∀ earlier stream, Line.Before earlier later →
              earlier.history.channel.pending[stream]? = some handle.request →
                stream ∈ later.history.channel.orphans ∨
                  ∃ between, earlier.Before between ∧ between.Before later ∧
                    ¬between.history.channel.ids.Holds stream := by
  have accounts := attended.accounts wired
  refine ⟨accounts.counted, fun handle sent => ?_⟩
  have nobody : life.submission.executions = [] := by
    have ruled := attended.reached.lasts (Run.ruled_lasting cluster registry codec _ _)
    cases underWay : life.submission.run with
    | none => simp [Submission.executions, underWay]
    | some run => simpa [Submission.executions, underWay] using (ruled.runs underWay).dropped ended
  have settles : (wires life.around).Settles handle := by
    refine (accounts.settled handle sent).resolve_left ?_
    rintro ⟨execution, running, _⟩
    simp [nobody] at running
  refine ⟨settles, fun later before processed => ?_⟩
  have gone := settles.gone before processed
  exact ⟨gone, fun earlier stream used pending => used.leaves_stream pending gone⟩

/-- Surroundings of connections alone: the pool of a node is the connection with its number. The
state is the clock with the connections. -/
def direct (nodes : List Node) : Cluster (Nat × Wires) where
  now := (·.1)
  plan _ around := (⟨nodes⟩, around)
  pool node around := (.ok node.id, around)
  send? _ pool opcode body around :=
    let result := match (around.2.line pool).history.channel.send opcode body with
      | .error cause => .error cause.message
      | .ok (request, _) => .ok ⟨pool, request⟩
    (some result, around.1, around.2.afterSend opcode body (some result))
  reply? _ handle around :=
    let reply := (around.2.lineOf handle).history.completed.lookup handle.request
    (reply, around.1, around.2.afterReply handle reply)
  abandon handle around := (around.1, around.2.abandon handle)
  retryCalls _ _ := 0
  countRetryCall _ around := around
  alarm _ _ around := around
  dismissAlarms _ around := around

theorem direct_wired (nodes : List Node) : (direct nodes).Wired (·.2) where
  plan _ _ := rfl
  pool _ _ := rfl
  countRetryCall _ _ := rfl
  alarm _ _ _ := rfl
  dismissAlarms _ _ := rfl
  send _ _ _ _ _ := rfl
  accepted _ pool opcode body around handle given := by
    simp only [direct, Option.some.injEq] at given
    split at given
    next => cases given
    next accepted =>
      cases given
      exact ⟨_, accepted⟩
  reply _ _ _ := rfl
  told _ handle around reply given := by
    simp only [direct, List.lookup_eq_some_iff] at given
    obtain ⟨before, after, split, _⟩ := given
    rw [split]
    simp
  abandon _ _ := rfl

def pair : List Node := [{ nodeAt 1 with id := 0 }, { nodeAt 2 with id := 1 }]

def moves (life : Life (Nat × Wires)) (move : Move (Nat × Wires)) : Life (Nat × Wires) :=
  life.act (direct pair) hedging .passThrough move

def happens (life : Life (Nat × Wires)) (now : Nat) (channel : ChannelId)
    (action : History.Action) : Life (Nat × Wires) :=
  life.moves (.change (now, life.around.2.act channel action))

def raced : Life (Nat × Wires) :=
  let sent := (submitted (.query ByteArray.empty) {} 1 0 100
    (0, { line := fun _ => ⟨⟨4, 0, 5, 5, 2, 0⟩, 0, []⟩ })).moves .start
  let speculates := (sent.happens 10 0 (.event 1 none .command)).moves .poll
  let answered := (speculates.happens 11 1 (.event 11 none .command)).happens 12 1
    (.event 12 none (.frame (.response 0 .result ByteArray.empty)))
  (answered.moves (.wake [2])).moves .poll

theorem raced_leaves_no_attempt :
    raced.Attended (direct pair) hedging .passThrough (·.2) ∧
      raced.submission.context.outcome ≠ none ∧
      raced.around.2.sent = [⟨0, 0⟩, ⟨1, 0⟩] ∧
      (raced.around.2.line 0).history.channel.waiting = [0] ∧
      (raced.around.2.line 0).Abandons 0 ∧
      0 ∉ (((raced.around.2.line 0).act (.event 13 none .command)).history.channel.waiting) ∧
      ((raced.around.2.line 0).act (.event 13 none .command)).history.channel.orphans = [0] := by
  have happens {life : Life (Nat × Wires)}
      (attended : life.Attended (direct pair) hedging .passThrough (·.2)) (now : Nat)
      (channel : ChannelId) (action : History.Action) :
      (life.happens now channel action).Attended (direct pair) hedging .passThrough (·.2) :=
    attended.changed (.act _ life.around.2 channel action)
  have sent : (Life.moves (submitted (.query ByteArray.empty) {} 1 0 100
      (0, { line := fun _ => ⟨⟨4, 0, 5, 5, 2, 0⟩, 0, []⟩ })) .start).Attended (direct pair) hedging
        .passThrough (·.2) := .moved (.submitted _ _ _ _ _ rfl) _ nofun
  have speculates := (happens sent 10 0 (.event 1 none .command)).moved .poll nofun
  have attended : raced.Attended (direct pair) hedging .passThrough (·.2) :=
    ((happens (happens speculates 11 1 _) 12 1 _).moved (.wake [2]) nofun).moved .poll nofun
  have ended : raced.submission.context.outcome ≠ none := by decide
  obtain ⟨_, left⟩ := attended.leaves_no_attempt (direct_wired pair) ended
  obtain ⟨settled, processed⟩ := left ⟨0, 0⟩ (by decide)
  have abandons := settled.resolve_left (by decide)
  obtain ⟨gone, _⟩ := processed _ (.act _ (.event 13 none .command)) (by decide)
  exact ⟨attended, ended, by decide, by decide, abandons, gone, by decide⟩

end Life

end ClusterDriver
