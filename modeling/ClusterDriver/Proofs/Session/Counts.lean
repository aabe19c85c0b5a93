import ClusterDriver.Proofs.Session.Grounds
import Mathlib.Algebra.Ring.Nat

set_option autoImplicit false

namespace ClusterDriver

def NodeStats.ended (stats : NodeStats) : Nat := stats.successes + stats.errors

namespace Metrics

variable {key : String}

structure Adds (key : String) (before after : Metrics) (asked answered : Nat) : Prop where
  attempts : (after.nodeStats key).attempts = (before.nodeStats key).attempts + asked
  ended : (after.nodeStats key).ended = (before.nodeStats key).ended + answered
  entry : asked = 0 → answered = 0 → after.nodes[key]? = before.nodes[key]?

theorem Adds.same {before after : Metrics} (same : after.nodes[key]? = before.nodes[key]?) :
    Adds key before after 0 0 where
  attempts := by rw [nodeStats_of_nodes same, Nat.add_zero]
  ended := by rw [nodeStats_of_nodes same, Nat.add_zero]
  entry _ _ := same

theorem Adds.trans {before middle after : Metrics} {asked answered more further : Nat}
    (one : Adds key before middle asked answered) (two : Adds key middle after more further) :
    Adds key before after (asked + more) (answered + further) where
  attempts := by rw [two.attempts, one.attempts, Nat.add_assoc]
  ended := by rw [two.ended, one.ended, Nat.add_assoc]
  entry unasked unanswered :=
    (two.entry (by omega) (by omega)).trans (one.entry (by omega) (by omega))

theorem ended_withOutcome (stats : NodeStats) (latency : Nat) (success : Bool) :
    (withOutcome stats latency success).ended = stats.ended + 1 := by
  cases success with
  | true => exact Nat.add_right_comm _ _ _
  | false => rfl

theorem adds_record (metrics : Metrics) {event : Event} (kept : event.forgets key = false) :
    Adds key metrics (metrics.record event) (if event.asks key then 1 else 0)
      (if event.answers key then 1 else 0) := by
  cases event with
  | attempt node =>
    by_cases own : node = key
    · subst own
      have counted : (metrics.record (.attempt node)).nodeStats node =
          { metrics.nodeStats node with attempts := (metrics.nodeStats node).attempts + 1 } :=
        (nodeStats_updateNode _ _ _).trans (if_pos rfl)
      constructor <;> simp [counted, Event.asks, Event.answers, NodeStats.ended]
    · simp only [Event.asks, Event.answers, own, decide_false]
      exact .same (nodes_updateNode _ own _)
  | outcome node latency success =>
    by_cases own : node = key
    · subst own
      have counted : (metrics.record (.outcome node latency success)).nodeStats node =
          withOutcome (metrics.nodeStats node) latency success :=
        (nodeStats_updateNode _ _ _).trans (if_pos rfl)
      refine ⟨by simp [counted, Event.asks, withOutcome], ?_, by simp [Event.answers]⟩
      rw [counted, ended_withOutcome]
      simp [Event.answers]
    · simp only [Event.asks, Event.answers, own, decide_false]
      exact .same (nodes_updateNode _ own _)
  | nodeRemoved node =>
    have other : node ≠ key := by simpa [Event.forgets] using kept
    refine .same ?_
    rw [nodes_removed, if_neg other]
  | _ => exact .same rfl

theorem adds_recordAll (metrics : Metrics) {events : List Event}
    (kept : ∀ event ∈ events, event.forgets key = false) :
    Adds key metrics (metrics.recordAll events) (asked key events) (answered key events) := by
  induction events generalizing metrics with
  | nil => exact .same rfl
  | cons event rest ih =>
    obtain ⟨own, others⟩ := List.forall_mem_cons.1 kept
    have adds := (adds_record metrics own).trans (ih (metrics.record event) others)
    rw [Nat.add_comm _ (asked key rest), Nat.add_comm _ (answered key rest)] at adds
    simp only [asked, answered, List.countP_cons]
    exact adds

end Metrics

namespace Simulation

section Sums

variable {weight : RequestTask → Nat} {change : RequestTask → RequestTask}

theorem sum_modify {tasks : List RequestTask} {id : TaskId} {task : RequestTask}
    (found : tasks[id]? = some task) :
    ((tasks.modify id change).map weight).sum + weight task =
      (tasks.map weight).sum + weight (change task) := by
  induction tasks generalizing id with
  | nil => cases found
  | cons first rest ih =>
    cases id with
    | zero =>
      obtain rfl := Option.some.inj found
      simp only [List.modify_zero_cons, List.map_cons, List.sum_cons]
      omega
    | succ id =>
      have rest := ih found
      simp only [List.modify_succ_cons, List.map_cons, List.sum_cons]
      omega

theorem sum_modify_le (fewer : ∀ task, weight (change task) ≤ weight task)
    (tasks : List RequestTask) (id : TaskId) :
    ((tasks.modify id change).map weight).sum ≤ (tasks.map weight).sum := by
  cases found : tasks[id]? with
  | none => rw [List.modify_eq_self (List.getElem?_eq_none_iff.1 found)]
  | some task =>
    have total := @sum_modify weight change tasks id task found
    have less := fewer task
    omega

end Sums

namespace Affairs

variable {actor : Option ErrandId} {before middle after : Affairs} {key : String}

def awaited (affairs : Affairs) (key : String) : Nat :=
  (affairs.tasks.map fun task => awaitedBy key task.run).sum

theorem sum_dropped_le (jobs : List Process) (left : List JobId) (tasks : List RequestTask) :
    ((dropped jobs left tasks).map fun task => awaitedBy key task.run).sum ≤
      (tasks.map fun task => awaitedBy key task.run).sum := by
  induction left generalizing tasks with
  | nil => exact Nat.le_refl _
  | cons job rest ih =>
    rw [dropped, List.foldl_cons, ← dropped]
    refine Nat.le_trans (ih _) ?_
    split
    next => exact sum_modify_le (fun task => Nat.zero_le _) tasks _
    next => exact Nat.le_refl _

/-- The counters of a node go on, and no outcome is counted that nobody has waited for. -/
structure Reckons (key : String) (tried : Prop) (before after : Affairs) : Prop where
  counted : ∃ asked answered, Metrics.Adds key before.metrics after.metrics asked answered ∧
    answered + after.awaited key ≤ asked + before.awaited key ∧ (asked ≠ 0 → tried)

structure Drops (key : String) (before after : Affairs) : Prop where
  entry : after.metrics.nodes[key]? = none
  fewer : after.awaited key ≤ before.awaited key

/-- Nothing is counted for a node, though its counters may be dropped. -/
structure Fades (key : String) (before after : Affairs) : Prop where
  entry : after.metrics.nodes[key]? = before.metrics.nodes[key]? ∨
    after.metrics.nodes[key]? = none
  fewer : after.awaited key ≤ before.awaited key

theorem Fades.same (metrics : after.metrics = before.metrics) (tasks : after.tasks = before.tasks) :
    before.Fades key after where
  entry := .inl (by rw [metrics])
  fewer := by rw [awaited, tasks, awaited]

theorem Fades.trans (one : before.Fades key middle) (two : middle.Fades key after) :
    before.Fades key after where
  entry := by
    rcases two.entry with same | gone
    · rw [same]
      exact one.entry
    · exact .inr gone
  fewer := Nat.le_trans two.fewer one.fewer

theorem Move.fades (move : Move actor before after) : before.Fades key after := by
  cases move with
  | accepts started timeout request options unclosed offered =>
    refine ⟨.inl rfl, Nat.le_of_eq ?_⟩
    simp [awaited, awaitedBy]
  | drops scheduler idle => exact ⟨.inl rfl, sum_dropped_le _ _ _⟩
  | forgets other own =>
    refine ⟨?_, Nat.le_refl _⟩
    rw [Metrics.nodes_removed]
    split
    next => exact .inr rfl
    next => exact .inl rfl
  | _ => exact .same rfl rfl

theorem Moves.fades (moves : Moves actor before after) : before.Fades key after := by
  induction moves with
  | refl => exact .same rfl rfl
  | tail _ move ih => exact ih.trans move.fades

theorem Fades.reckons (fades : before.Fades key after) (tried : Prop) :
    before.Reckons key tried after ∨ before.Drops key after := by
  rcases fades.entry with same | gone
  · exact .inl ⟨0, 0, .same same, Nat.add_le_add_left fades.fewer 0, fun asked => absurd rfl asked⟩
  · exact .inr ⟨gone, fades.fewer⟩

theorem awaitedBy_plain (key : String) (run : Option Run) :
    awaitedBy key (run.map fun run => { run with woken := [] }) = awaitedBy key run := by
  cases run <;> rfl

theorem keep_reckons {affairs : Affairs} {id : TaskId} {task own : RequestTask}
    {submission : Submission} {tried : Prop} (found : affairs.tasks[id]? = some task)
    (tally : Metrics.Tally key (awaitedBy key task.run) (awaitedBy key submission.run) tried
      submission.events) : affairs.Reckons key tried (affairs.keep id own submission) := by
  have total := @sum_modify (fun task => awaitedBy key task.run)
    (fun task => { task with
      run := submission.run.map fun run => { run with woken := [] }
      isOver := task.isOver || submission.isOver
      aborted := task.aborted || submission.isDropped }) affairs.tasks id task found
  simp only [awaitedBy_plain] at total
  have counted := tally.moves total
  exact ⟨_, _, Metrics.adds_recordAll affairs.metrics counted.kept, counted.balanced, counted.tried⟩

end Affairs

namespace World

variable {gone : Wiring} {world : World} {key : String}

theorem turnRequest_reckons (tended : world.affairs.Tended)
    (sound : gone.Sound ∧ gone.Endures world.wiring) (grounded : world.affairs.Grounded gone)
    (id : TaskId) : world.affairs.Reckons key (gone.Renews key (world.turnRequest id).wiring)
      (world.turnRequest id).affairs := by
  rcases turnRequest_cases world id with
    same | ⟨task, context, submission, middle, found, goesOn, known, attends, same⟩
  · rw [same]
    exact ⟨0, 0, .same rfl, Nat.le_refl _, fun asked => absurd rfl asked⟩
  · have plain : world.affairs.tasks[id]? = some task.plain := by simp [affairs, found]
    obtain ⟨_, ⟨own, held, tends⟩, _⟩ := tended.goesOn id task.plain plain goesOn
    obtain rfl := Option.some.inj (held.symm.trans known)
    have tallies := attends.tallies found (RequestContext.tends_plain.1 tends) sound grounded key
    have apart := attends.rewires.apart
    have metrics : middle.affairs.metrics = world.affairs.metrics := by rw [apart]
    have under : middle.affairs.awaited key = world.affairs.awaited key := by rw [apart]; rfl
    have there : middle.affairs.tasks[id]? = some task.plain := by rwa [apart]
    have wiring : (world.turnRequest id).wiring = middle.wiring := congrArg (·.toWiring) same
    have counted := tallies.counted
    rw [← Affairs.awaitedBy_plain key task.run] at counted
    obtain ⟨asked, answered, adds, balanced, tried⟩ :=
      @Affairs.keep_reckons key middle.affairs id task.plain task submission _ there counted
    rw [metrics] at adds
    rw [under] at balanced
    rw [same, wiring]
    exact ⟨asked, answered, adds, balanced, fun some => (tried some).2⟩

theorem act_reckons (tended : world.affairs.Tended) (sound : gone.Sound ∧ gone.Endures world.wiring)
    (grounded : world.affairs.Grounded gone) (happening : Happening) :
    world.affairs.Reckons key (gone.Renews key (world.act happening).wiring)
      (world.act happening).affairs ∨ world.affairs.Drops key (world.act happening).affairs := by
  by_cases request : ∃ id, happening = .turn (.request id)
  · obtain ⟨id, rfl⟩ := request
    exact .inl (turnRequest_reckons tended sound grounded id)
  · have moves := @shifts_act world happening fun id same => request ⟨id, same⟩
    exact (Affairs.Moves.fades moves).reckons _

/-- What is known at any time of the life of a session. -/
structure Steady (gone : Wiring) (world : World) : Prop where
  tended : world.affairs.Tended
  sound : gone.Sound ∧ gone.Endures world.wiring
  grounded : world.affairs.Grounded gone

theorem Steady.act (steady : world.Steady gone) (happening : Happening) :
    (world.act happening).Steady gone where
  tended := tended_act steady.tended happening
  sound := ⟨steady.sound.1, steady.sound.2.trans (endures_act world happening)⟩
  grounded := grounded_act steady.tended steady.sound steady.grounded happening

theorem Steady.live (steady : world.Steady gone) (happenings : List Happening) :
    (world.live happenings).Steady gone := by
  induction happenings generalizing world with
  | nil => exact steady
  | cons happening rest ih => exact ih (steady.act happening)

theorem steady_unopened (network : Network) (setup : Setup) :
    (unopened network setup).Steady (unopened network setup).wiring where
  tended := .blank rfl rfl ⟨rfl, rfl⟩
  sound := ⟨unopened_sound network setup, .refl _⟩
  grounded _ member := (List.not_mem_nil member).elim

theorem Steady.afresh (steady : world.Steady gone) : world.Steady world.wiring where
  tended := steady.tended
  sound := ⟨steady.sound.2.sound steady.sound.1, .refl _⟩
  grounded task member run born := by
    have still : world.wiring.Sound ∧ world.wiring.Endures world.wiring :=
      ⟨steady.sound.2.sound steady.sound.1, .refl _⟩
    exact (steady.grounded task member run born).mono (fun _ known => ⟨still, known.2⟩)
      fun _ _ owns => ⟨still, owns.2⟩

theorem Steady.reckons (steady : world.Steady gone) (happening : Happening) :
    world.affairs.Reckons key (gone.Renews key (world.act happening).wiring)
      (world.act happening).affairs ∨ world.affairs.Drops key (world.act happening).affairs :=
  act_reckons steady.tended steady.sound steady.grounded happening

def counters? (world : World) (key : String) : Option NodeStats := world.metrics.nodes[key]?

def awaited (world : World) (key : String) : Nat :=
  (world.tasks.map fun task => awaitedBy key task.run).sum

theorem affairs_awaited (world : World) (key : String) :
    world.affairs.awaited key = world.awaited key := by
  have plain (task : RequestTask) : awaitedBy key task.plain.run = awaitedBy key task.run :=
    Affairs.awaitedBy_plain key task.run
  simp only [Affairs.awaited, affairs, awaited, List.map_map, Function.comp_def, plain]

def Undropped (key : String) (world : World) : List Happening → Prop
  | [] => True
  | happening :: rest =>
      ((world.counters? key).isSome → ((world.act happening).counters? key).isSome) ∧
        (world.act happening).Undropped key rest

instance decidableUndropped (key : String) :
    (world : World) → (later : List Happening) → Decidable (world.Undropped key later)
  | _, [] => .isTrue trivial
  | world, happening :: rest =>
      @instDecidableAnd _ _ inferInstance (decidableUndropped key (world.act happening) rest)

/-- Attempts and outcomes since some time, when all that was counted of the node is kept. -/
structure Balances (key : String) (world later : World) : Prop where
  grows : (world.metrics.nodeStats key).attempts ≤ (later.metrics.nodeStats key).attempts ∧
    (world.metrics.nodeStats key).ended ≤ (later.metrics.nodeStats key).ended
  balanced : (later.metrics.nodeStats key).ended + later.awaited key +
      (world.metrics.nodeStats key).attempts ≤
    (later.metrics.nodeStats key).attempts + (world.metrics.nodeStats key).ended +
      world.awaited key

theorem Balances.refl (world : World) : world.Balances key world where
  grows := ⟨Nat.le_refl _, Nat.le_refl _⟩
  balanced := by omega

theorem Balances.trans {middle later : World} (one : world.Balances key middle)
    (two : middle.Balances key later) : world.Balances key later where
  grows := ⟨Nat.le_trans one.grows.1 two.grows.1, Nat.le_trans one.grows.2 two.grows.2⟩
  balanced := by
    have first := one.balanced
    have second := two.balanced
    omega

theorem balances_of_reckons {tried : Prop} {later : World}
    (reckons : world.affairs.Reckons key tried later.affairs) : world.Balances key later := by
  obtain ⟨asked, answered, adds, balanced, _⟩ := reckons.counted
  have attempts : (later.metrics.nodeStats key).attempts =
    (world.metrics.nodeStats key).attempts + asked := adds.attempts
  have ended : (later.metrics.nodeStats key).ended =
    (world.metrics.nodeStats key).ended + answered := adds.ended
  rw [affairs_awaited, affairs_awaited] at balanced
  exact ⟨⟨by omega, by omega⟩, by omega⟩

theorem Steady.balances (steady : world.Steady gone) {happening : Happening}
    (kept : (world.counters? key).isSome → ((world.act happening).counters? key).isSome) :
    world.Balances key (world.act happening) := by
  rcases @reckons gone world key steady happening with reckons | drops
  · exact balances_of_reckons reckons
  -- An entry that was dropped all the same had not been there.
  · have none : (world.act happening).counters? key = none := drops.entry
    rw [none] at kept
    have unknown : world.counters? key = Option.none := by
      by_contra known
      cases kept (Option.isSome_iff_ne_none.2 known)
    have same : world.affairs.Reckons key True (world.act happening).affairs :=
      ⟨0, 0, .same (none.trans unknown.symm), Nat.add_le_add_left drops.fewer 0, fun _ => trivial⟩
    exact balances_of_reckons same

theorem Steady.balances_live (steady : world.Steady gone) {happenings : List Happening}
    (kept : world.Undropped key happenings) : world.Balances key (world.live happenings) := by
  induction happenings generalizing world with
  | nil => exact .refl world
  | cons happening rest ih => exact (steady.balances kept.1).trans (ih (steady.act happening) kept.2)

def removing? (world : World) (id : ErrandId) : Option SocketAddress :=
  match world.errands[id]? with
  | some (.removeNode address true _) => some address
  | _ => none

/-- In this turn the call returns that it removed the node. -/
structure Returns (address : SocketAddress) (id : ErrandId) (world : World) : Prop where
  removing : world.removing? id = some address
  untold : (id, .flag true) ∉ world.results
  told : (id, .flag true) ∈ (world.act (.turn (.errand id))).results

/-- What is left of the counters of a node after its removal: outcomes of the attempts that were
under way by then, and nothing if there were none. -/
structure Leftover (key : String) (gone later : World) : Prop where
  unasked : (later.metrics.nodeStats key).attempts = 0
  ended : (later.metrics.nodeStats key).ended + later.awaited key ≤ gone.awaited key
  unseen : gone.awaited key = 0 → later.counters? key = none

theorem pursueRemoval_forgets {id : ErrandId} {address : SocketAddress}
    {channels : List ChannelId} (untold : (id, .flag true) ∉ world.results)
    (told : (id, .flag true) ∈ (world.pursueRemoval id address true channels).results) :
    (world.pursueRemoval id address true channels).counters? address.text = none := by
  have waits := congrArg (·.results) (affairs_awaitClosed world channels { process := .errand id })
  unfold pursueRemoval pursueClosed at told ⊢
  split at told
  next later given =>
    have same : (later.record [.nodeRemoved address.text]).metrics.nodes[address.text]? = none :=
      (Metrics.nodes_removed later.metrics address.text).trans (if_pos rfl)
    exact same
  next later given =>
    rw [given] at waits
    have same : later.results = world.results := waits
    rw [← same] at untold
    exact absurd told untold

theorem Returns.forgets {address : SocketAddress} {id : ErrandId}
    (returns : world.Returns address id) :
    (world.act (.turn (.errand id))).counters? address.text = none := by
  obtain ⟨removing, untold, told⟩ := returns
  have errand : ∃ closing, world.errands[id]? = some (.removeNode address true closing) := by
    unfold removing? at removing
    split at removing
    next closing known => exact ⟨closing, by rw [known, Option.some.inj removing]⟩
    next => cases removing
  obtain ⟨closing, errand⟩ := errand
  have allowed : world.forbids (.turn (.errand id)) = false := by simp [forbids, errand]
  rw [act_errand allowed] at told ⊢
  simp only [turnErrand, errand] at told ⊢
  cases closing with
  | some channels => exact pursueRemoval_forgets untold told
  | none =>
    simp only at told ⊢
    split at told
    next =>
      rcases List.mem_append.1 told with earlier | new
      · exact absurd earlier untold
      · cases List.mem_singleton.1 new
    next later channels removed =>
      have same : later.results = world.results :=
        congrArg (·.results) (rewires_removeNode? removed).1.apart
      rw [← same] at untold
      exact pursueRemoval_forgets untold told

theorem Steady.leftover {gone : World} (steady : world.Steady gone.wiring) {happening : Happening}
    (unadded : ¬ gone.wiring.Renews key (world.act happening).wiring)
    (left : gone.Leftover key world) : gone.Leftover key (world.act happening) := by
  rcases @reckons gone.wiring world key steady happening with reckons | drops
  · obtain ⟨asked, answered, adds, balanced, tried⟩ := reckons.counted
    -- Whatever was sent went to a node that had not been removed.
    have unasked : asked = 0 := by
      by_contra some
      exact unadded (tried some)
    have attempts : ((world.act happening).metrics.nodeStats key).attempts =
      (world.metrics.nodeStats key).attempts + asked := adds.attempts
    have ended : ((world.act happening).metrics.nodeStats key).ended =
      (world.metrics.nodeStats key).ended + answered := adds.ended
    rw [affairs_awaited, affairs_awaited] at balanced
    have before := left.ended
    refine ⟨by rw [attempts, left.unasked, unasked], by omega, fun idle => ?_⟩
    exact (adds.entry unasked (by omega)).trans (left.unseen idle)
  · have fewer := drops.fewer
    rw [affairs_awaited, affairs_awaited] at fewer
    have blank : (world.act happening).metrics.nodeStats key = {} := by
      rw [Metrics.nodeStats, Std.TreeMap.getD_eq_getD_getElem?]
      exact congrArg (·.getD {}) drops.entry
    have before := left.ended
    refine ⟨by rw [blank], ?_, fun _ => drops.entry⟩
    rw [blank]
    exact Nat.le_trans (Nat.le_of_eq (Nat.zero_add _)) (by omega)

theorem Steady.leftover_live {gone : World} (steady : world.Steady gone.wiring)
    {happenings : List Happening}
    (unadded : ¬ gone.wiring.Renews key (world.live happenings).wiring)
    (left : gone.Leftover key world) : gone.Leftover key (world.live happenings) := by
  induction happenings generalizing world with
  | nil => exact left
  | cons happening rest ih =>
    have onward := steady.act happening
    refine ih onward unadded (steady.leftover (fun added => unadded ?_) left)
    exact added.endures (onward.sound.2.sound onward.sound.1) (endures_live _ rest)

/-- The counters of a node balance as long as its entry is kept. The call that removes the node
drops the entry, and until a node with that address is added again nothing is counted but the
outcomes of the attempts that were under way when the call returned. -/
theorem node_counters {network : Network} {setup : Setup} {earlier : List Happening} {world : World}
    (reached : world = (unopened network setup).live earlier) :
    (∀ key, (unopened network setup).Undropped key earlier →
      (world.metrics.nodeStats key).ended + world.awaited key ≤
        (world.metrics.nodeStats key).attempts) ∧
    (∀ key later, world.Undropped key later → world.Balances key (world.live later)) ∧
    ∀ address id, world.Returns address id →
      (world.act (.turn (.errand id))).counters? address.text = none ∧
      ∀ later, ¬ (world.act (.turn (.errand id))).wiring.Renews address.text
          ((world.act (.turn (.errand id))).live later).wiring →
        (world.act (.turn (.errand id))).Leftover address.text
          ((world.act (.turn (.errand id))).live later) := by
  have first := steady_unopened network setup
  have steady := first.live earlier
  rw [← reached] at steady
  refine ⟨fun key kept => ?_, fun key later kept => steady.balances_live kept,
    fun address id returns => ⟨returns.forgets, fun later unadded => ?_⟩⟩
  · have balances := first.balances_live kept
    rw [← reached] at balances
    exact balances.balanced
  · have forgotten := returns.forgets
    have blank : (world.act (.turn (.errand id))).metrics.nodeStats address.text = {} := by
      rw [Metrics.nodeStats, Std.TreeMap.getD_eq_getD_getElem?]
      exact congrArg (·.getD {}) forgotten
    refine (steady.act _).afresh.leftover_live unadded ⟨?_, ?_, fun _ => forgotten⟩
    · rw [blank]
    · rw [blank]
      exact Nat.le_of_eq (Nat.zero_add _)

end World

namespace LateOutcome

def config : DriverConfig where
  contactPoints := [⟨.v4 1 9042, none, []⟩]
  pool := { closeDrainTimeout := 1 }

def fresh : World := .unopened { isUp := true } { registry := .ofConfig config }

def opening : List World.Happening :=
  fresh.settling [.addServer { address := .v4 1 9042, conduct := .ordinary .never [] },
    .startServer 0, .begin (.openSession config none)]

def asking : List World.Happening :=
  (fresh.run opening).settling [.submit (.query ByteArray.empty) {},
    .begin (.removeNode (.v4 1 9042) true none)]

def leaving : List World.Happening := (fresh.run (opening ++ asking)).moment

def busy : World := fresh.live (opening ++ asking ++ leaving.take 7)

def gone : World := busy.act (.turn (.errand 1))

def late : World := gone.live (leaving.drop 8)

def key : String := (SocketAddress.v4 1 9042).text

theorem busy_returns : busy.Returns (.v4 1 9042) 1 := by
  have told : busy.removals = [] ∧ gone.removals = [1] := by decide +kernel
  refine ⟨by decide +kernel, ?_, ?_⟩
  · rw [← World.mem_removals, told.1]
    exact List.not_mem_nil
  · rw [← World.mem_removals]
    exact told.2 ▸ List.mem_singleton_self 1

theorem late_unadded : ¬ gone.wiring.Renews key late.wiring := by
  have nodes : late.wiring.tracker.nodes.length ≤ gone.wiring.tracker.nodes.length ∧
      ∀ old ∈ gone.wiring.tracker.nodes, old.state = .removed := by decide +kernel
  exact fun renews => renews.absurd nodes.1 nodes.2

theorem entry_comes_back :
    busy.Returns (.v4 1 9042) 1 ∧ gone.counters? key = none ∧ ¬ gone.wiring.Renews key late.wiring ∧
      (late.counters? key).map (fun stats => (stats.attempts, stats.ended)) = some (0, 1) :=
  ⟨busy_returns, busy_returns.forgets, late_unadded, by decide +kernel⟩

theorem late_counters :
    (busy.metrics.nodeStats key).attempts = 1 ∧ busy.awaited key = 1 ∧
      (busy.metrics.nodeStats key).ended = 0 ∧ gone.counters? key = none ∧
      gone.Leftover key late := by
  have counted : (busy.metrics.nodeStats key).attempts = 1 ∧ busy.awaited key = 1 ∧
      fresh.Undropped key (opening ++ asking ++ leaving.take 7) := by decide +kernel
  obtain ⟨kept, _, forgets⟩ := @World.node_counters
    { isUp := true } { registry := .ofConfig config } (opening ++ asking ++ leaving.take 7) busy rfl
  obtain ⟨dropped, leftover⟩ := forgets (.v4 1 9042) 1 busy_returns
  have balanced := kept key counted.2.2
  rw [counted.1, counted.2.1] at balanced
  exact ⟨counted.1, counted.2.1, by omega, dropped, leftover (leaving.drop 8) late_unadded⟩

end LateOutcome

end Simulation

end ClusterDriver
