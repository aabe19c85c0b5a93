import ClusterDriver.Proofs.Request.Steps
import ClusterDriver.Simulation.Requests

set_option autoImplicit false

namespace ClusterDriver

namespace Submission

variable {σ : Type}

def counted (submission : Submission) : List Metrics.Event :=
  submission.events.filter (·.isRequest)

inductive Sound (submission : Submission) : Prop where
  | waiting
      (idle : submission.run = none)
      (pending : submission.context.Pending)
      (goesOn : submission.isOver = false)
      (nothing : submission.counted = [])
  | running {run : Run}
      (underWay : submission.run = some run)
      (unfinished : run.finished = false)
      (pending : submission.context.Pending)
      (goesOn : submission.isOver = false)
      (submitted : submission.counted = [.submitted])
  | settled {result : Except RequestError Success} {latency : Nat}
      (resolved : submission.context.Resolved result)
      (isOver : submission.isOver = true)
      (closed : submission.counted = .submitted :: RequestContext.closingEvents latency result)

theorem closingEvents_isRequest (latency : Nat) (result : Except RequestError Success) :
    (RequestContext.closingEvents latency result).filter (·.isRequest) =
      RequestContext.closingEvents latency result := by
  cases result with
  | ok success => cases ignored : success.ignored <;> simp [RequestContext.closingEvents, ignored,
      Metrics.Event.isRequest]
  | error cause => cases cause <;> rfl

theorem counted_count (submission : Submission) (events : List Metrics.Event) :
    (submission.count events).counted = submission.counted ++ events.filter (·.isRequest) :=
  List.filter_append _ _

theorem concluded {submission : Submission} {events : List Metrics.Event}
    (pending : submission.context.Pending) (now : Nat) (cause : RequestError)
    (closed : submission.counted ++ events.filter (·.isRequest) =
      .submitted :: RequestContext.closingEvents (submission.context.latency now) (.error cause)) :
    Sound { submission.count events with
      context := submission.context.resolve now (.error cause), isOver := true } := by
  have appended := (counted_count submission events).trans closed
  exact .settled (pending.resolved now (.error cause)) rfl appended

theorem hold_sound {submission : Submission} (idle : submission.run = none)
    (pending : submission.context.Pending) (goesOn : submission.isOver = false)
    (nothing : submission.counted = []) (now : Nat) : (submission.hold now).Sound := by
  unfold hold RequestContext.giveUp
  cases submission.context.giveUp? now with
  | none => exact .waiting idle pending goesOn nothing
  | some cause =>
    refine concluded pending now cause ?_
    rw [nothing, List.filter_cons_of_pos rfl, closingEvents_isRequest]
    rfl

theorem prepare_ok {registry : ProfileRegistry} {codec : Codec} {context : RequestContext}
    {request : Request} {options : RequestOptions} {build : Plan → Run}
    (prepared : Run.prepare registry codec context request options = .ok build) (plan : Plan) :
    (build plan).context = context ∧ (build plan).finished = false ∧ (build plan).events = [] := by
  unfold Run.prepare at prepared
  split at prepared
  · cases prepared
  split at prepared
  · cases prepared
  · cases prepared
    exact ⟨rfl, rfl, rfl⟩

theorem begin_sound (cluster : Cluster σ) (registry : ProfileRegistry) (codec : Codec)
    {submission : Submission} (pending : submission.context.Pending)
    (goesOn : submission.isOver = false) (nothing : submission.counted = []) (around : σ) :
    (submission.begin cluster registry codec around).1.Sound := by
  have submitted : (submission.count [.submitted]).counted = [.submitted] := by
    rw [counted_count, nothing]
    rfl
  simp only [begin]
  split
  next cause _ =>
    have pending : (submission.count [.submitted]).context.Pending := pending
    refine concluded pending _ cause ?_
    rw [submitted, RequestContext.conclude, closingEvents_isRequest]
    rfl
  next build prepared =>
    obtain ⟨_, unfinished, _⟩ :=
      prepare_ok prepared (cluster.plan submission.options.routingKey around).1
    exact .running rfl unfinished pending goesOn submitted

theorem adopt_sound {submission : Submission} {before after : Run}
    (context : before.context = submission.context) (unfinished : before.finished = false)
    (submitted : submission.counted = [.submitted]) (pending : submission.context.Pending)
    (progresses : before.Progresses after) : (submission.adopt before after).Sound := by
  have counts : (submission.adopt before after).counted = submission.counted ++
      (after.events.drop before.events.length).filter (·.isRequest) := counted_count _ _
  have pending : before.context.Pending := context ▸ pending
  rcases progresses with onward | ⟨result, ended⟩
  · obtain ⟨recorded, events, attempts⟩ := onward.events
    have none : recorded.filter (·.isRequest) = [] := by
      simpa [List.filter_eq_nil_iff] using attempts
    rw [events, List.drop_left, none, List.append_nil, submitted] at counts
    have going : after.finished = false := onward.finished.trans unfinished
    exact .running rfl going (onward.pending pending) going counts
  · obtain ⟨recorded, latency, events, attempts⟩ := ended.events
    have none : recorded.filter (·.isRequest) = [] := by
      simpa [List.filter_eq_nil_iff] using attempts
    rw [events, List.append_assoc, List.drop_left, List.filter_append, none, List.nil_append,
      closingEvents_isRequest, submitted] at counts
    exact .settled ended.resolved ended.finished counts

theorem Sound.poll (cluster : Cluster σ) {submission : Submission} (sound : submission.Sound)
    (goesOn : submission.isOver = false) (around : σ) :
    (submission.poll cluster around).1.Sound := by
  cases sound with
  | waiting idle pending goesOn nothing =>
    simp only [Submission.poll, idle]
    exact .waiting idle pending goesOn nothing
  | running underWay unfinished pending _ submitted =>
    simp only [Submission.poll, underWay]
    exact adopt_sound rfl unfinished submitted pending
      (Run.poll_progresses cluster _ around pending)
  | settled _ isOver => cases goesOn.symm.trans isOver

theorem Sound.unfinished {submission : Submission} {run : Run} (sound : submission.Sound)
    (goesOn : submission.isOver = false) (underWay : submission.run = some run) :
    run.finished = false := by
  cases sound with
  | waiting idle => cases idle.symm.trans underWay
  | running other unfinished =>
    obtain rfl := Option.some.inj (other.symm.trans underWay)
    exact unfinished
  | settled _ isOver => cases goesOn.symm.trans isOver

theorem Sound.pending_or_over {submission : Submission} (sound : submission.Sound) :
    (submission.context.Pending ∧ submission.isOver = false ∧
        submission.counted ⊆ [.submitted]) ∨
      ∃ result latency, submission.context.Resolved result ∧ submission.isOver = true ∧
        submission.counted = .submitted :: RequestContext.closingEvents latency result := by
  cases sound with
  | waiting _ pending goesOn nothing =>
    exact .inl ⟨pending, goesOn, by simp [nothing]⟩
  | running _ _ pending goesOn submitted =>
    exact .inl ⟨pending, goesOn, by simp [submitted]⟩
  | settled resolved isOver closed => exact .inr ⟨_, _, resolved, isOver, closed⟩

def Due (submission : Submission) (now : Nat) : Prop :=
  submission.context.cancelled = true ∨ submission.context.isExpired now = true

theorem hold_due {submission : Submission} {now : Nat} (due : submission.Due now) :
    (submission.hold now).isOver = true := by
  unfold hold RequestContext.giveUp RequestContext.giveUp?
  cases cancelled : submission.context.cancelled with
  | true => rfl
  | false =>
    have expired := due.resolve_left (by simp [cancelled])
    simp only [expired]
    rfl

theorem poll_due {cluster : Cluster σ} (steady : cluster.Steady) {submission : Submission}
    {run : Run} (underWay : submission.run = some run) (unfinished : run.finished = false)
    (around : σ) (due : submission.Due (cluster.now around)) :
    (submission.poll cluster around).1.isOver = true := by
  simp only [poll, underWay]
  exact Run.poll_due steady around unfinished due

theorem start_due {cluster : Cluster σ} (steady : cluster.Steady) (registry : ProfileRegistry)
    (codec : Codec) (submission : Submission) (around : σ)
    (due : submission.Due (cluster.now around)) :
    (submission.start cluster registry codec around).1.isOver = true := by
  simp only [start]
  split
  next isOver => exact isOver
  next further =>
    revert further
    simp only [begin]
    split
    next => exact fun further => absurd rfl further
    next build prepared =>
      -- A request that is due by now is still due when it has been prepared.
      intro _
      obtain ⟨_, unfinished, _⟩ :=
        prepare_ok prepared (cluster.plan submission.options.routingKey around).1
      have first (now : Nat) : ((build (cluster.plan submission.options.routingKey
          around).1).startExecution now).finished = false := unfinished
      refine poll_due steady rfl (first _) _ ?_
      exact due.imp_right fun expired =>
        RequestContext.isExpired_later expired (steady.plan submission.options.routingKey around)

end Submission

structure Life (σ : Type) where
  submission : Submission
  around : σ

namespace Life

variable {σ : Type}

/-- What can happen next. The surroundings may change in any way, the clock included, and wake
executions in any order. A request that waits for a worker takes its turn or gets one; `start` does
at once what `begin` and later turns do with changes between them. -/
inductive Move (σ : Type) where
  | change (around : σ)
  | wake (executions : List Nat)
  | cancel
  | hold
  | start
  | begin
  | poll
  | turn (turn : Run.Turn)

def submitted (request : Request) (options : RequestOptions) (id started timeout : Nat)
    (around : σ) : Life σ :=
  ⟨{ request, options, context := { id, started, timeout } }, around⟩

def waits (life : Life σ) : Bool := life.submission.run.isNone && !life.submission.isOver

section Running

variable (cluster : Cluster σ) (registry : ProfileRegistry) (codec : Codec)

def takeTurn (life : Life σ) (turn : Run.Turn) : Life σ :=
  match life.submission.run with
  | none => life
  | some run =>
      let run := { run with context := life.submission.context }
      match run.take? cluster life.around turn with
      | none => life
      | some (after, around) => ⟨life.submission.adopt run after, around⟩

def act (life : Life σ) : Move σ → Life σ
  | .change around => { life with around }
  | .wake executions =>
      { life with submission := { life.submission with
          run := life.submission.run.map fun run => { run with woken := executions } } }
  | .cancel =>
      { life with submission := { life.submission with
          context := life.submission.context.cancel } }
  | .hold =>
      if life.waits then
        { life with submission := life.submission.hold (cluster.now life.around) }
      else life
  | .start =>
      if life.waits then
        let (submission, around) := life.submission.start cluster registry codec life.around
        ⟨submission, around⟩
      else life
  | .begin =>
      if life.waits then
        let (submission, around) := life.submission.begin cluster registry codec life.around
        ⟨submission, around⟩
      else life
  | .poll =>
      if life.submission.isOver then life
      else
        let (submission, around) := life.submission.poll cluster life.around
        ⟨submission, around⟩
  | .turn turn => if life.submission.isOver then life else life.takeTurn cluster turn

def run (life : Life σ) (moves : List (Move σ)) : Life σ :=
  moves.foldl (fun life move => life.act cluster registry codec move) life

def Reached (life : Life σ) : Prop :=
  ∃ request options id started timeout around moves,
    life = (submitted request options id started timeout around).run cluster registry codec moves

end Running

variable {cluster : Cluster σ} {registry : ProfileRegistry} {codec : Codec}

theorem submitted_sound (request : Request) (options : RequestOptions) (id started timeout : Nat)
    (around : σ) : (submitted request options id started timeout around).submission.Sound :=
  .waiting rfl ⟨rfl, rfl⟩ rfl rfl

theorem waits_iff {life : Life σ} :
    life.waits = true ↔ life.submission.run = none ∧ life.submission.isOver = false := by
  simp [waits]

theorem sound_waits {life : Life σ} (sound : life.submission.Sound) (waits : life.waits = true) :
    life.submission.run = none ∧ life.submission.context.Pending ∧
      life.submission.isOver = false ∧ life.submission.counted = [] := by
  obtain ⟨idle, goesOn⟩ := waits_iff.1 waits
  cases sound with
  | waiting _ pending _ nothing => exact ⟨idle, pending, goesOn, nothing⟩
  | running underWay => cases idle.symm.trans underWay
  | settled _ isOver => cases goesOn.symm.trans isOver

theorem act_sound (life : Life σ) (move : Move σ) (sound : life.submission.Sound) :
    (life.act cluster registry codec move).submission.Sound := by
  cases move with
  | change => exact sound
  | wake executions =>
    cases sound with
    | waiting idle pending goesOn nothing =>
      exact .waiting (by simp [act, idle]) pending goesOn nothing
    | @running run underWay unfinished pending goesOn submitted =>
      have unfinished : Run.finished { run with woken := executions } = false := unfinished
      exact .running (by simp [act, underWay]) unfinished pending goesOn submitted
    | settled resolved isOver closed => exact .settled resolved isOver closed
  | cancel =>
    cases sound with
    | waiting idle pending goesOn nothing =>
      exact .waiting idle { pending with } goesOn nothing
    | running underWay unfinished pending goesOn submitted =>
      exact .running underWay unfinished { pending with } goesOn submitted
    | settled resolved isOver closed => exact .settled { resolved with } isOver closed
  | hold =>
    simp only [act]
    split
    next waits =>
      obtain ⟨idle, pending, goesOn, nothing⟩ := sound_waits sound waits
      exact Submission.hold_sound idle pending goesOn nothing _
    next => exact sound
  | start =>
    simp only [act]
    split
    next waits =>
      obtain ⟨_, pending, goesOn, nothing⟩ := sound_waits sound waits
      have begun :=
        Submission.begin_sound cluster registry codec pending goesOn nothing life.around
      simp only [Submission.start]
      split
      next => exact begun
      next further => exact begun.poll cluster (by simpa using further) _
    next => exact sound
  | begin =>
    simp only [act]
    split
    next waits =>
      obtain ⟨_, pending, goesOn, nothing⟩ := sound_waits sound waits
      exact Submission.begin_sound cluster registry codec pending goesOn nothing life.around
    next => exact sound
  | poll =>
    simp only [act]
    split
    next => exact sound
    next further => exact sound.poll cluster (by simpa using further) _
  | turn turn =>
    simp only [act]
    split
    next => exact sound
    next further =>
      simp only [takeTurn]
      cases sound with
      | waiting idle pending goesOn nothing =>
        simp only [idle]
        exact .waiting idle pending goesOn nothing
      | @running run underWay unfinished pending goesOn submitted =>
        simp only [underWay]
        split
        next => exact .running underWay unfinished pending goesOn submitted
        next taken =>
          exact Submission.adopt_sound rfl unfinished submitted pending
            (Run.take?_progresses taken pending)
      | settled _ isOver => exact absurd isOver further

structure Stays (before after : Submission) : Prop where
  isOver : after.isOver = true
  outcome : after.context.outcome = before.context.outcome
  phase : after.context.phase = before.context.phase
  events : after.events = before.events

theorem act_over (life : Life σ) (move : Move σ) (isOver : life.submission.isOver = true) :
    Stays life.submission (life.act cluster registry codec move).submission := by
  have notWaiting : life.waits = false := by simp [waits, isOver]
  have same : Stays life.submission life.submission := ⟨isOver, rfl, rfl, rfl⟩
  cases move with
  | change => exact same
  | wake => exact ⟨isOver, rfl, rfl, rfl⟩
  | cancel => exact ⟨isOver, rfl, rfl, rfl⟩
  | hold => simpa [act, notWaiting] using same
  | start => simpa [act, notWaiting] using same
  | begin => simpa [act, notWaiting] using same
  | poll => simpa [act, isOver] using same
  | turn => simpa [act, isOver] using same

theorem run_sound (life : Life σ) (moves : List (Move σ)) (sound : life.submission.Sound) :
    (life.run cluster registry codec moves).submission.Sound := by
  induction moves generalizing life with
  | nil => exact sound
  | cons move rest ih => exact ih _ (act_sound life move sound)

theorem Reached.sound {life : Life σ} (reached : life.Reached cluster registry codec) :
    life.submission.Sound := by
  obtain ⟨request, options, id, started, timeout, around, moves, rfl⟩ := reached
  exact run_sound _ moves (submitted_sound request options id started timeout around)

def unreachable : Cluster Nat where
  now := id
  plan _ around :=
    (⟨[{ id := 0, address := .v4 0 9042, datacenter := none, tokens := [], distance := .near }]⟩,
      around)
  pool _ around := (.ok 0, around)
  send? _ _ _ _ around := (none, around)
  reply? _ _ around := (none, around)
  abandon _ around := around
  retryCalls _ _ := 0
  countRetryCall _ around := around
  alarm _ _ around := around
  dismissAlarms _ around := around

def overdue : Life Nat :=
  (submitted (.query ByteArray.empty) {} 1 0 100 0).run unreachable .initial .passThrough
    [.hold, .start, .change 50, .poll, .change 100, .poll]

end Life

theorem Simulation.World.cluster_steady (task : Simulation.TaskId) :
    (Simulation.World.cluster task).Steady where
  alarm execution due world := by
    simp only [cluster, setAlarm, now, Agenda.setAlarm]
    split <;> exact Nat.le_refl _
  plan key world := by
    simp only [cluster, makePlan, makePlan?]
    split <;> exact Nat.le_refl _

end ClusterDriver
