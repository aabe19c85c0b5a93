import ClusterDriver.Proofs.Session.Moves
import ClusterDriver.Proofs.Shutdown
import ClusterDriver.Scenario.Cluster

set_option autoImplicit false

namespace ClusterDriver

theorem ShutdownReport.inTime_of_none {timeout : Nat} {members : List ShutdownMember}
    (none : (ofMembers timeout members).timedOut.isEmpty = true) {member : ShutdownMember}
    (listed : member ∈ members) : member.finished.isSome = true := by
  have late : members.filter (fun member => !member.inTime timeout) = [] := by
    simpa [ofMembers_eq] using none
  have inTime := List.filter_eq_nil_iff.1 late member listed
  obtain ⟨finished, _, same⟩ := ShutdownMember.inTime_iff.1 (by simpa using inTime)
  rw [same]
  rfl

namespace Simulation.World

/-! ### Closing -/

theorem closeScheduler_spec (world : World) (closing : ClosingSession) (waiter : Waker) :
    (world.closeScheduler closing waiter).1.standing = world.standing ∧
      (world.closeScheduler closing waiter).2.pools = closing.pools ∧
      (world.closeScheduler closing waiter).2.report = closing.report := by
  unfold closeScheduler
  split
  next => exact ⟨rfl, rfl, rfl⟩
  next =>
    split
    next => exact ⟨standing_await world _ waiter, rfl, rfl⟩
    next =>
      refine ⟨?_, rfl, rfl⟩
      simp [standing_foldl standing_abortJob]

/-- What became of the entries of a shutdown: none got lost, and what was begun with is closed. -/
structure Closes (world : World) (before after : List ClosingPool) : Prop where
  pools : after.map (·.pool) = before.map (·.pool)
  begun : ∀ entry ∈ after, entry.begun = true →
    (∃ earlier ∈ before, earlier.pool = entry.pool ∧ earlier.begun = true) ∨
      world.standing.Over entry.pool

theorem closeMember_spec (world : World) (started : Nat) (entry : ClosingPool) (waiter : Waker) :
    world.Stops (world.closeMember started entry waiter).1 ∧
      (world.closeMember started entry waiter).2.pool = entry.pool ∧
      ((world.closeMember started entry waiter).2.begun = true → entry.begun = true ∨
        (world.closeMember started entry waiter).1.standing.Over entry.pool) := by
  unfold closeMember
  split
  next => exact ⟨.same rfl, rfl, .inl⟩
  next =>
    cases begun : entry.closing with
    | some channels =>
      refine ⟨.same (standing_awaitClosed world channels waiter), rfl, fun _ => .inl ?_⟩
      simp [ClosingPool.begun, begun]
    | none =>
      have same := standing_awaitClosed (world.closePool entry.pool).1
        (world.closePool entry.pool).2 waiter
      refine ⟨(Stops.stop (standing_closePool world entry.pool)).trans (.same same), rfl,
        fun _ => .inr ?_⟩
      simp only
      rw [same]
      exact over_closePool world entry.pool

theorem closeMembers_spec (world : World) (started : Nat) (waiter : Waker)
    (entries : List ClosingPool) :
    world.Stops (world.closeMembers started waiter entries).1 ∧
      (world.closeMembers started waiter entries).1.Closes entries
        (world.closeMembers started waiter entries).2 := by
  induction entries generalizing world with
  | nil => exact ⟨.same rfl, rfl, nofun⟩
  | cons entry rest ih =>
    obtain ⟨first, pool, begun⟩ := closeMember_spec world started entry waiter
    obtain ⟨stops, closes⟩ := ih (world.closeMember started entry waiter).1
    refine ⟨first.trans stops, ?_, ?_⟩
    · simp only [closeMembers, List.map_cons, pool, closes.pools]
    · simp only [closeMembers]
      refine List.forall_mem_cons.2 ⟨fun own => ?_, fun other member told => ?_⟩
      · rw [pool]
        rcases begun own with earlier | finished
        · exact .inl ⟨entry, List.mem_cons_self, rfl, earlier⟩
        · exact .inr (stops.finished _ finished)
      · rcases closes.begun other member told with ⟨earlier, there, same⟩ | finished
        · exact .inl ⟨earlier, List.mem_cons_of_mem _ there, same⟩
        · exact .inr finished

theorem finishClosing_spec (world : World) (closing : ClosingSession) :
    ∃ later, world.Stops later ∧
      (world.finishClosing closing).1.standing = { later.standing with
        closing := some { closing with report := some (world.finishClosing closing).2 } } ∧
      ∀ entry ∈ closing.pools, entry.begun = true ∨ later.standing.Over entry.pool := by
  let report := ShutdownReport.ofMembers closing.timeout (membersOf closing)
  have dropped : (if closing.scheduler.finished.isSome then world
      else world.scheduler.dropJobs.2.foldl abortJob
        { world with scheduler := world.scheduler.dropJobs.1 }).standing = world.standing := by
    split
    next => rfl
    next => simp [standing_foldl standing_abortJob]
  generalize drops : (if closing.scheduler.finished.isSome then world
      else world.scheduler.dropJobs.2.foldl abortJob
        { world with scheduler := world.scheduler.dropJobs.1 }) = dropping at dropped
  have forced := stops_forceClosePools dropping (closing.pools.map (·.pool))
  rw [List.foldl_map] at forced
  have finishes : (world.finishClosing closing).1.standing = { standing (
      if report.timedOut.isEmpty then dropping
      else closing.pools.foldl (fun world entry => world.forceClosePool entry.pool) dropping) with
        closing := some { closing with report := some report } } := by
    simp only [finishClosing, drops]
    rw [standing_emit]
    rfl
  refine ⟨_, ?_, finishes, ?_⟩
  · split
    next => exact .same dropped
    next => exact (Stops.same dropped).trans forced.1
  · intro entry member
    split
    next none =>
      -- Nobody is late, so every pool has begun to close by itself.
      left
      have listed : entry.member ∈ membersOf closing :=
        List.mem_cons_of_mem _ (List.mem_map_of_mem member)
      simp [ClosingPool.begun, ShutdownReport.inTime_of_none none listed]
    next => exact .inr (forced.2 entry.pool (List.mem_map_of_mem member))

theorem leads_continueClosing {world : World} {closing : ClosingSession}
    (underWay : world.closing = some closing) (unreported : closing.report = none) (waiter : Waker) :
    world.Leads (world.continueClosing closing waiter).1 ∧
      ∀ report, (world.continueClosing closing waiter).2 = some report →
        ∃ finished, (world.continueClosing closing waiter).1.standing.closing = some finished ∧
          finished.report = some report := by
  obtain ⟨scheduled, listed, silent⟩ := closeScheduler_spec world closing waiter
  simp only [continueClosing]
  generalize world.closeScheduler closing waiter = ended at scheduled listed silent ⊢
  obtain ⟨stops, closes⟩ := closeMembers_spec ended.1 ended.2.started waiter ended.2.pools
  generalize ended.1.closeMembers ended.2.started waiter ended.2.pools = members at stops closes ⊢
  have stopped : world.Stops members.1 := (Stops.same scheduled).trans stops
  rw [listed] at closes
  have goesOn {later last : World} (more : members.1.Stops later) (report : Option ShutdownReport)
      (finished : report.isSome = true → ∀ entry ∈ members.2,
        entry.begun = true ∨ later.standing.Over entry.pool)
      (same : last.standing = { later.standing with
        closing := some { ended.2 with pools := members.2, report } }) : world.Leads last := by
    refine (stopped.trans more).leads.trans (.move ?_)
    rw [same]
    have stays := (stopped.trans more).closing.trans underWay
    refine .goesOn closing _ stays ⟨unreported, ?_, ?_, finished⟩
    · exact closes.pools
    · intro entry member begun
      exact (closes.begun entry member begun).imp_right (more.finished _)
  split
  next =>
    obtain ⟨later, more, same, finished⟩ := finishClosing_spec members.1
      { ended.2 with pools := members.2 }
    refine ⟨goesOn more _ (fun _ => finished) same, ?_⟩
    rintro _ ⟨⟩
    exact ⟨_, congrArg Standing.closing same, rfl⟩
  next =>
    refine ⟨goesOn (.same rfl) ended.2.report ?_ ?_, nofun⟩
    · rw [silent, unreported]
      nofun
    · rw [standing_await]
      rfl

theorem leads_beginClosing {world : World} (unclosed : world.closing = none)
    (quietPeriod timeout : Nat) (waiter : Waker) :
    world.Leads (world.beginClosing quietPeriod timeout waiter) := by
  apply Leads.move
  simp only [beginClosing]
  rw [standing_setAlarm, standing_setAlarm]
  refine .begins _ unclosed ?_ ?_ rfl
  · simp [Function.comp_def, standing]
  · simp [ClosingPool.begun]

theorem leads_report {world : World} {closing : ClosingSession} {report : ShutdownReport}
    (finished : world.standing.closing = some closing) (reported : closing.report = some report)
    (id : ErrandId) : world.Leads (world.finishErrand id (.report report)) := by
  apply Leads.move
  have told : (world.finishErrand id (.report report)).standing =
      { world.standing with told := world.standing.told ++ [report] } := by
    simp [standing, finishErrand, setErrand, Errand.Result.report?]
  rw [told]
  exact .tells closing report finished reported

theorem leads_pursueClosing (world : World) (id : ErrandId) (quietPeriod timeout : Nat) :
    world.Leads (world.pursueClosing id quietPeriod timeout) := by
  have begun : world.Leads (if world.closing.isSome then world
      else world.beginClosing quietPeriod timeout { process := .errand id }) := by
    split
    next => exact .refl world
    next unclosed => exact leads_beginClosing (by simpa using unclosed) _ _ _
  simp only [pursueClosing]
  generalize (if world.closing.isSome then world
    else world.beginClosing quietPeriod timeout { process := .errand id }) = later at begun ⊢
  split
  next => exact begun
  next closing underWay =>
    split
    next report reported => exact begun.trans (leads_report underWay reported id)
    next unreported =>
      obtain ⟨goesOn, finished⟩ :=
        leads_continueClosing underWay unreported { process := .errand id }
      split
      next report given =>
        rw [given] at goesOn finished
        obtain ⟨closed, same, reported⟩ := finished report rfl
        exact (begun.trans goesOn).trans (leads_report same reported id)
      next given =>
        rw [given] at goesOn
        exact begun.trans goesOn

/-! ### Other errands -/

theorem leads_finishErrand {world later : World} (leads : world.Leads later) (id : ErrandId)
    {result : Errand.Result} (other : result.report? = none) :
    world.Leads (later.finishErrand id result) :=
  leads.stands (standing_finishErrand other later id)

theorem leads_pursueConnect (world : World) (id : ErrandId) (address : SocketAddress)
    (limits : ChannelLimits) (authenticator : Option Authenticator) (attempt : Connecting) :
    world.Leads (world.pursueConnect id address limits authenticator attempt) := by
  have tried : world.Leads (world.continueConnecting attempt).2 :=
    .same (standing_continueConnecting world attempt)
  unfold pursueConnect
  split
  next given =>
    rw [given] at tried
    exact tried.stands (standing_setErrand _ _ _)
  next given =>
    rw [given] at tried
    exact leads_finishErrand tried id rfl
  next given =>
    rw [given] at tried
    exact leads_finishErrand (tried.stands (standing_addLink _ _ _ _)) id rfl

theorem leads_pursueReply (world : World) (id : ErrandId) (handle : Handle) (timeout : Nat)
    (due : Option Nat) : world.Leads (world.pursueReply id handle timeout due) := by
  have asked : world.Leads (world.takeReply handle { process := .errand id }).2 :=
    .same (standing_takeReply world handle _)
  simp only [pursueReply]
  split
  next given =>
    rw [given] at asked
    exact leads_finishErrand asked id rfl
  next given =>
    rw [given] at asked
    split
    next => exact leads_finishErrand (asked.stands (standing_abandon _ _)) id rfl
    next => exact asked.stands rfl

theorem leads_pursueAcquire (world : World) (id : ErrandId) (pool : PoolId) :
    world.Leads (world.pursueAcquire id pool) := by
  unfold pursueAcquire
  split
  next => exact .refl world
  next =>
    split
    next => exact .same (standing_await world _ _)
    next => exact leads_finishErrand (.refl world) id rfl

theorem leads_pursueClosed {finish : World → World} (finishes : ∀ world, Leads world (finish world))
    (world : World) (id : ErrandId) (channels : List ChannelId)
    (waiting : List ChannelId → Errand) :
    world.Leads (world.pursueClosed id channels waiting finish) := by
  have waits : world.Leads (world.awaitClosed channels { process := .errand id }).1 :=
    .same (standing_awaitClosed world channels _)
  unfold pursueClosed
  split
  next given =>
    rw [given] at waits
    exact waits.trans (finishes _)
  next given =>
    rw [given] at waits
    exact waits.stands (standing_setErrand _ _ _)

theorem leads_removeNode? {world later : World} {address : SocketAddress}
    {channels : List ChannelId} (removed : world.removeNode? address = some (later, channels)) :
    world.Leads later := by
  unfold removeNode? at removed
  split at removed
  next => cases removed
  next tracker node events gone =>
    have move : Standing.Move world.standing _ := .removes address tracker node events gone
    apply Leads.move
    simp only at removed
    split at removed
    next bare =>
      cases removed
      rw [standing_changeNodes]
      rw [bare] at move
      exact move
    next pool own =>
      have closed : ((world.changeNodes tracker events).closePool pool).1 = later :=
        congrArg Prod.fst (Option.some.inj removed)
      rw [← closed, standing_closePool, standing_changeNodes]
      rw [own] at move
      exact move

theorem leads_pursueRemoval (world : World) (id : ErrandId) (address : SocketAddress)
    (forgets : Bool) (channels : List ChannelId) :
    world.Leads (world.pursueRemoval id address forgets channels) := by
  unfold pursueRemoval
  apply leads_pursueClosed
  intro later
  refine leads_finishErrand (.same ?_) id rfl
  split <;> rfl

theorem leads_pursueConnectAll {finish : World → Nat → World}
    (finishes : ∀ world up, Leads world (finish world up)) (world : World) (id : ErrandId)
    (progress : ConnectingAll) (waiting : ConnectingAll → Errand) :
    world.Leads (world.pursueConnectAll id progress waiting finish) := by
  have waits : world.Leads (world.continueConnectingAll progress { process := .errand id }).1 :=
    .same (standing_continueConnectingAll world progress _)
  unfold pursueConnectAll
  split
  next given =>
    rw [given] at waits
    exact waits.trans (finishes _ _)
  next given =>
    rw [given] at waits
    exact waits.stands (standing_setErrand _ _ _)

theorem leads_finishOpening (world : World) (config : DriverConfig) (up : Nat) :
    world.Leads (world.finishOpening config up).1 := by
  unfold finishOpening
  split
  next => exact (stops_forceClosePools world world.tracker.pools).1.leads.stands rfl
  next => exact .same rfl

theorem leads_pursueOpening (world : World) (id : ErrandId) (config : DriverConfig)
    (progress : ConnectingAll) : world.Leads (world.pursueOpening id config progress) := by
  unfold pursueOpening
  apply leads_pursueConnectAll
  intro later up
  exact leads_finishErrand (leads_finishOpening later config up) id rfl

theorem leads_pursueGivingUp (world : World) (id : ErrandId) (context : Nat) :
    world.Leads (world.pursueGivingUp id context) := by
  unfold pursueGivingUp
  split
  next => exact .refl world
  next =>
    simp only
    split
    next => exact leads_finishErrand (.same (by simp)) id rfl
    next => exact .same (by simp)

def reopens (world : World) (id : ErrandId) : Bool :=
  match world.errands[id]? with
  | some (.openSession _ none) => !world.pools.isEmpty || world.closing.isSome
  | _ => false

theorem leads_turnErrand {world : World} {id : ErrandId} (fits : world.reopens id = false) :
    world.Leads (world.turnErrand id) := by
  unfold turnErrand
  split
  next => exact .refl world
  next => exact .refl world
  next => exact leads_pursueConnect world id _ _ _ _
  next address limits authenticator _ =>
    have begun : world.Leads
        (world.startConnecting (.errand id) address limits authenticator).2 :=
      .same (standing_startConnecting world _ _ _ _)
    split
    next given =>
      rw [given] at begun
      exact leads_finishErrand begun id rfl
    next given =>
      rw [given] at begun
      exact begun.stands (standing_setErrand _ _ _)
  next => exact leads_pursueReply world id _ _ _
  next => exact leads_pursueAcquire world id _
  next pool _ =>
    have waits : world.Leads (world.awaitReady [pool] { process := .errand id }).1 :=
      .same (standing_awaitReady world _ _)
    split
    next given =>
      rw [given] at waits
      exact leads_finishErrand waits id rfl
    next given =>
      rw [given] at waits
      exact waits
  next pool closing _ =>
    have finishes (later : World) : later.Leads (later.finishErrand id .done) :=
      leads_finishErrand (.refl later) id rfl
    cases closing with
    | some channels => exact leads_pursueClosed finishes world id channels _
    | none =>
      exact (Stops.stop (standing_closePool world pool)).leads.trans
        (leads_pursueClosed finishes _ id _ _)
  next => exact leads_pursueRemoval world id _ _ _
  next =>
    split
    next => exact leads_finishErrand (.refl world) id rfl
    next removed => exact (leads_removeNode? removed).trans (leads_pursueRemoval _ id _ _ _)
  next timeout progress _ =>
    have finishes (later : World) (up : Nat) : later.Leads (later.finishErrand id (.count up)) :=
      leads_finishErrand (.refl later) id rfl
    cases progress with
    | some progress => exact leads_pursueConnectAll finishes world id progress _
    | none =>
      exact (leads_startConnectingAll world timeout).trans
        (leads_pursueConnectAll finishes _ id _ _)
  next => exact leads_pursueOpening world id _ _
  next config opening =>
    split
    next => exact leads_finishErrand (.refl world) id rfl
    next =>
      simp only [reopens, opening, Bool.or_eq_false_iff] at fits
      have configured : world.Leads (world.withConfig config) := by
        apply Leads.move
        refine .configures config ?_ ?_
        · simpa [standing] using fits.1
        · simpa [standing] using fits.2
      have opened := leads_startConnectingAll (world.withConfig config)
        (config.pool.connectTimeout + connectGrace)
      exact (configured.trans opened).trans (leads_pursueOpening _ id config _)
  next => exact leads_pursueClosing world id _ _
  next => exact leads_pursueGivingUp world id _

/-! ### Everything that happens -/

/-- What happens in a world, in any order: somebody takes a turn, woken or not, time passes and
alarms go off, as the agenda may say, and users of the session and those who run the servers do
something. -/
inductive Happening where
  | turn (process : Process)
  | schedule (agenda : Agenda Process Waker)
  | wake (waker : Waker)
  | begin (errand : Errand)
  | submit (request : Request) (options : RequestOptions)
  | cancel (context : Nat)
  | step (step : Scenario.NodeStep)
  | addServer (server : Server)
  | startServer (server : ServerId)
  | watch
  | forget

def occur (world : World) : Happening → World
  | .turn (.errand id) => if world.reopens id then world else world.turnErrand id
  | .turn process => world.turn process
  | .schedule agenda => { world with agenda }
  | .wake waker => world.wake waker
  | .begin errand => (world.begin errand).1
  -- A submission with a deadline that the clock cannot show fails, and leaves all as it is.
  | .submit request options => ((world.submit? request options).map (·.1)).getD world
  | .cancel context => world.cancelContext context
  | .step step => (step.run world).1
  | .addServer server => (world.addServer server).1
  | .startServer server => world.startServer server
  | .watch => world.addListener
  | .forget => { world with nodeEvents := [], calledBack := [], results := [] }

def run (world : World) (happenings : List Happening) : World := happenings.foldl occur world

theorem submit?_begun (world : World) (request : Request) (options : RequestOptions) :
    world.submit? request options =
      (Clock.after? world.now (Run.timeoutOf world.setup.registry options)).map fun _ =>
        ((world.begun options).offer (world.contexts.length + 1) request options,
          world.contexts.length + 1) := by
  simp only [submit?, beginContext?, RequestContext.create?, Option.map_map]
  rfl

theorem submit?_eq_none_iff {world : World} {request : Request} {options : RequestOptions} :
    world.submit? request options = none ↔
      Clock.limit ≤ world.now + Run.timeoutOf world.setup.registry options := by
  simp [submit?_begun]

theorem occur_submit (world : World) (request : Request) (options : RequestOptions) :
    world.occur (.submit request options) = world ∨
      world.occur (.submit request options) =
        (world.begun options).offer (world.contexts.length + 1) request options := by
  simp only [occur, submit?_begun]
  cases Clock.after? world.now (Run.timeoutOf world.setup.registry options) with
  | none => exact .inl rfl
  | some => exact .inr rfl

theorem leads_step (world : World) (step : Scenario.NodeStep) : world.Leads (step.run world).1 := by
  cases step with
  | stop server => exact .same (standing_stopServer world server)
  | restart server => exact .same (standing_restartServer world server)
  | markDown address => exact leads_changeNodes (fun orderly => .markDown orderly address) _
  | markUp address => exact leads_changeNodes (fun orderly => .markUp orderly _ address) _
  | addNode contact => exact .move (.adds contact)
  | _ => exact .same rfl

theorem leads_occur (world : World) (happening : Happening) :
    world.Leads (world.occur happening) := by
  cases happening with
  | turn process =>
    cases process with
    | connection channel => exact .same (standing_turnConnection _ world channel)
    | reader channel => exact .same (standing_turnReader _ world channel)
    | watcher channel => exact leads_turnWatcher world channel
    | manager pool => exact leads_turnManager _ world pool
    | tracking => exact leads_turnTracking world
    | listener id => exact .same (standing_turnListener world id)
    | request task => exact leads_turnRequest world task
    | timer id => exact .same (standing_turnTimer world id)
    | callback job => exact .same (standing_turnCallback world job)
    | errand id =>
      simp only [occur]
      split
      next => exact .refl world
      next fits => exact leads_turnErrand (by simpa using fits)
    | acceptor server => exact .same (standing_turnAcceptor _ world server)
    | service socket => exact .same (standing_turnService _ world socket)
    | delayedReply id => exact .same (standing_turnDelayedReply world id)
  | schedule agenda => exact .same rfl
  | wake waker => exact .same (standing_wake world waker)
  | begin errand => exact .same (standing_begin world errand)
  | submit request options =>
    rcases occur_submit world request options with same | same <;> rw [same]
    · exact .refl world
    · exact .same ((standing_offer _ _ _ _).trans (standing_begun world options))
  | cancel context => exact .same (standing_cancelContext world context)
  | step step => exact leads_step world step
  | addServer server => exact .same rfl
  | startServer server => exact .same (standing_startServer world server)
  | watch => exact .same rfl
  | forget => exact .move .forgets

theorem leads_run (world : World) (happenings : List Happening) :
    world.Leads (world.run happenings) :=
  Leads.foldl leads_occur happenings world

def unopened (network : Network) (setup : Setup) : World where
  network := network
  setup := setup

theorem mem_told {world : World} {report : ShutdownReport} :
    report ∈ world.standing.told ↔ ∃ id, (id, .report report) ∈ world.results := by
  simp only [standing, List.mem_filterMap, Prod.exists]
  constructor
  · rintro ⟨id, result, member, given⟩
    cases result with
    | report told =>
      obtain rfl := Option.some.inj given
      exact ⟨id, member⟩
    | _ => cases given
  · rintro ⟨id, member⟩
    exact ⟨id, _, member, rfl⟩

theorem poolState_eq (world : World) (pool : PoolId) :
    world.poolState pool = (world.pools.map (·.pool.state))[pool]?.getD .closed := by
  rw [List.getElem?_map, poolState, pool?]
  cases world.pools[pool]? with
  | none => rfl
  | some service => rfl

theorem poolState_of_over {world : World} {pool : PoolId} (finished : world.standing.Over pool) :
    world.poolState pool = .closed := by
  unfold poolState
  split
  next => rfl
  next service found =>
    have held : world.standing.pools[pool]? = some service.pool := by
      rw [standing_pool?, found]
      rfl
    exact Pool.isClosed_iff.1 (finished service.pool held)

/-- When somebody is told that the shutdown of the session is over, every pool is closed that was
there before it began, and stays so, whatever else happens at the same time and afterwards. -/
theorem told_closes_pools {network : Network} {setup : Setup} {earlier later : List Happening}
    {before after : World} (opened : before = (unopened network setup).run earlier)
    (unclosed : before.isSessionClosed = false) (goesOn : after = before.run later) {id : ErrandId}
    {report : ShutdownReport} (told : (id, .report report) ∈ after.results) {pool : PoolId}
    (created : pool < before.pools.length) (more : List Happening) :
    (after.run more).poolState pool = .closed := by
  have sound : before.standing.Sound := by
    rw [opened]
    exact (leads_run (unopened network setup) earlier).sound (Standing.blank_sound none true 1)
  have moves : before.Leads after := by
    rw [goesOn]
    exact leads_run before later
  have known : pool < before.standing.pools.length := by
    rwa [standing, List.length_map]
  have none : before.closing = none := by simpa [isSessionClosed] using unclosed
  obtain ⟨still, finished⟩ :=
    Standing.Moves.over_of_told moves sound none (mem_told.2 ⟨id, told⟩) known
  exact poolState_of_over (Standing.Moves.keeps_over (leads_run after more) still finished).2

/-! ### By the agenda -/

def turns : Nat → World → List Happening
  | 0, _ => []
  | limit + 1, world =>
      match world.agenda.next? with
      | none => []
      | some (process, agenda) =>
          let given := [.schedule agenda, .turn process]
          given ++ turns limit (world.run given)

def settling (world : World) (happenings : List Happening) : List Happening :=
  happenings ++ turns 100 (world.run happenings)

def moment (world : World) : List Happening :=
  let (agenda, woken) := world.agenda.tick
  world.settling (.schedule agenda :: woken.map .wake)

end Simulation.World

/-! ### A pool that comes late -/

namespace Simulation.LatePool

def hasty : DriverConfig where
  contactPoints := [⟨.v4 1 9042, none, []⟩]
  profiles := [(defaultProfileName, { attemptTimeout := some 1, idempotent := true })]

def fresh : World := .unopened { isUp := true } { registry := .ofConfig hasty }

def opening : List World.Happening :=
  fresh.settling [.addServer { address := .v4 1 9042, conduct := .ordinary .never [] },
    .addServer { address := .v4 2 9042, conduct := .ordinary .echo [] },
    .startServer 0, .startServer 1, .begin (.openSession hasty none)]

def asking : List World.Happening :=
  (fresh.run opening).settling [.step (.addNode ⟨.v4 2 9042, none, []⟩),
    .submit (.query ByteArray.empty) {}]

def busy : World := fresh.run (opening ++ asking)

def closing : List World.Happening :=
  let asked := busy.settling [.begin (.closeSession 10 50)]
  asked ++ (busy.run asked).moment

def shut : World := busy.run closing

theorem busy_pools :
    busy.isSessionClosed = false ∧ busy.pools.map (·.pool.state) = [.ready] := by
  decide +kernel

theorem shut_pools :
    shut.standing.told = [{ completed := ["scheduler", "pool 0.0.0.1:9042"], elapsed := 1 }] ∧
      shut.pools.map (·.pool.state) = [.closed, .ready] := by
  decide +kernel

theorem shut_returned : ∃ id report, (id, .report report) ∈ shut.results := by
  have told := List.mem_singleton_self
    ({ completed := ["scheduler", "pool 0.0.0.1:9042"], elapsed := 1 } : ShutdownReport)
  rw [← shut_pools.1, World.mem_told] at told
  obtain ⟨id, told⟩ := told
  exact ⟨id, _, told⟩

theorem late_pool_stays_open :
    busy.isSessionClosed = false ∧ (∃ id report, (id, .report report) ∈ shut.results) ∧
      ∃ pool < shut.pools.length, shut.poolState pool ≠ .closed := by
  have length := congrArg List.length shut_pools.2
  rw [List.length_map] at length
  refine ⟨busy_pools.1, shut_returned, 1, ?_, ?_⟩
  · rw [length]
    decide
  · rw [World.poolState_eq, shut_pools.2]
    decide

theorem earlier_pool_closes :
    busy.isSessionClosed = false ∧ 0 < busy.pools.length ∧ shut.poolState 0 = .closed := by
  have length := congrArg List.length busy_pools.2
  rw [List.length_map] at length
  have created : 0 < busy.pools.length := by
    rw [length]
    decide
  obtain ⟨id, report, told⟩ := shut_returned
  have closes := @World.told_closes_pools { isUp := true } { registry := .ofConfig hasty }
    (opening ++ asking) closing busy shut rfl busy_pools.1 rfl id report told 0 created []
  simp only [World.run, List.foldl_nil] at closes
  exact ⟨busy_pools.1, created, closes⟩

end Simulation.LatePool

end ClusterDriver
