import ClusterDriver.Proofs.Metrics.Nodes
import ClusterDriver.Proofs.Request.Course
import ClusterDriver.Proofs.Request.Surroundings

set_option autoImplicit false

namespace ClusterDriver

namespace Metrics

def asked (key : String) (events : List Event) : Nat := events.countP (·.asks key)

def answered (key : String) (events : List Event) : Nat := events.countP (·.answers key)

/-- Of a node for whose answers so many have waited before, and so many wait after these events, no
outcome is counted that nobody has waited for, and its counters are kept. -/
structure Tally (key : String) (before after : Nat) (tried : Prop) (events : List Event) : Prop where
  kept : ∀ event ∈ events, event.forgets key = false
  balanced : answered key events + after ≤ asked key events + before
  tried : asked key events ≠ 0 → tried

namespace Tally

variable {key : String} {before middle after : Nat} {tried further : Prop} {events more : List Event}

theorem append (tally : Tally key before middle tried events)
    (next : Tally key middle after further more) (stays : tried → further) :
    Tally key before after further (events ++ more) where
  kept := List.forall_mem_append.2 ⟨tally.kept, next.kept⟩
  balanced := by
    have first := tally.balanced
    have second := next.balanced
    simp only [answered, asked, List.countP_append] at first second ⊢
    omega
  tried some := by
    by_cases earlier : asked key events = 0
    · refine next.tried fun none => some ?_
      simp only [asked, List.countP_append] at earlier none ⊢
      omega
    · exact stays (tally.tried earlier)

theorem apart (apart : ∀ event ∈ events, event.node? = none) (fewer : after ≤ before) :
    Tally key before after tried events := by
  have silent (event : Event) (member : event ∈ events) : event.asks key = false ∧
      event.answers key = false ∧ event.forgets key = false := by
    have none := apart event member
    cases event <;> simp_all [Event.node?, Event.asks, Event.answers, Event.forgets]
  have unasked : asked key events = 0 :=
    List.countP_eq_zero.2 fun event member => by simp [(silent event member).1]
  have unanswered : answered key events = 0 :=
    List.countP_eq_zero.2 fun event member => by simp [(silent event member).2.1]
  refine ⟨fun event member => (silent event member).2.2, ?_, fun some => absurd unasked some⟩
  rw [unasked, unanswered]
  omega

theorem moves (tally : Tally key before after tried events) {total sum : Nat}
    (moved : sum + before = total + after) : Tally key total sum tried events where
  kept := tally.kept
  balanced := by
    have balanced := tally.balanced
    omega
  tried := tally.tried

theorem attempt {node : String} (tries : node = key → tried) :
    Tally key 0 (if node = key then 1 else 0) tried [.attempt node] where
  kept := by simp [Event.forgets]
  balanced := by simp [answered, asked, Event.answers, Event.asks, List.countP_cons]
  tried some := by
    by_contra untried
    have other : node ≠ key := fun same => untried (tries same)
    simp [asked, Event.asks, other] at some

theorem outcome (node : String) (latency : Nat) (success : Bool) :
    Tally key (if node = key then 1 else 0) 0 tried [.outcome node latency success] where
  kept := by simp [Event.forgets]
  balanced := by simp [answered, asked, Event.answers, Event.asks, List.countP_cons]
  tried some := absurd rfl some

end Tally

theorem closingEvents_apart (latency : Nat) (result : Except RequestError Success) :
    ∀ event ∈ RequestContext.closingEvents latency result, event.node? = none := by
  cases result with
  | ok success => cases ignored : success.ignored <;>
      simp [RequestContext.closingEvents, ignored, Event.node?]
  | error cause => cases cause <;> simp [RequestContext.closingEvents, Event.node?]

end Metrics

def Stage.awaits (key : String) : Stage → Nat
  | .awaiting node _ _ _ => if node.address.text = key then 1 else 0
  | _ => 0

def Run.awaited (key : String) (run : Run) : Nat :=
  totalOf (fun execution => execution.stage.awaits key) run.executions

variable {σ : Type}

/-- What can be told of nodes and their pools in certain surroundings. -/
structure Outlook (σ : Type) where
  sound : σ → Prop
  known : Node → σ → Prop
  owns : Node → PoolId → σ → Prop
  tried : String → σ → Prop

structure Outlook.Grows (outlook : Outlook σ) (around later : σ) : Prop where
  known : ∀ node, outlook.known node around → outlook.known node later
  owns : ∀ node pool, outlook.owns node pool around → outlook.owns node pool later
  tried : ∀ key, outlook.tried key around → outlook.tried key later

/-- Plans are made of nodes that are known, a pool belongs to the node that it is asked for, and
what is sent over it is counted for that node. -/
structure Cluster.Guides (cluster : Cluster σ) (outlook : Outlook σ) : Prop where
  keepsSound : cluster.Keeps outlook.sound
  keepsKnown : ∀ node, cluster.Keeps (outlook.known node)
  keepsOwns : ∀ node pool, cluster.Keeps (outlook.owns node pool)
  keepsTried : ∀ key, cluster.Keeps (outlook.tried key)
  planned : ∀ key around, outlook.sound around → ∀ node ∈ (cluster.plan key around).1.remaining,
    outlook.known node (cluster.plan key around).2
  pooled : ∀ node pool around later, outlook.known node around →
    cluster.pool node around = (.ok pool, later) → outlook.owns node pool later
  sent : ∀ execution node pool opcode body handle around later, outlook.owns node pool around →
    cluster.send? execution pool opcode body around = (some (.ok handle), later) →
      outlook.tried node.address.text later

variable {outlook : Outlook σ} {around later : σ}

def Stage.Founded (outlook : Outlook σ) (around : σ) : Stage → Prop
  | .starting preferred => ∀ node, preferred = some node → outlook.known node around
  | .seeking _ preferred => ∀ node, preferred = some node → outlook.known node around
  | .acquiring _ node pool => outlook.known node around ∧ outlook.owns node pool around
  | .awaiting node _ _ _ => outlook.known node around

theorem Stage.founded_nowhere (outlook : Outlook σ) (around : σ) (node : Node) :
    none = some node → outlook.known node around := by
  intro same
  cases same

theorem Stage.Founded.mono {τ : Type} {other : Outlook τ} {elsewhere : τ} {stage : Stage}
    (founded : stage.Founded outlook around)
    (knows : ∀ node, outlook.known node around → other.known node elsewhere)
    (owns : ∀ node pool, outlook.owns node pool around → other.owns node pool elsewhere) :
    stage.Founded other elsewhere := by
  cases stage with
  | starting preferred => exact fun node same => knows node (founded node same)
  | seeking retryingOn preferred => exact fun node same => knows node (founded node same)
  | acquiring retryingOn node pool => exact ⟨knows node founded.1, owns node pool founded.2⟩
  | awaiting node attempt started handle => exact knows node founded

namespace Run

structure Founded (outlook : Outlook σ) (around : σ) (run : Run) : Prop where
  plan : ∀ node ∈ run.plan.remaining, outlook.known node around
  stages : ∀ execution ∈ run.executions, execution.stage.Founded outlook around

theorem Founded.mono {τ : Type} {other : Outlook τ} {elsewhere : τ} {run : Run}
    (founded : run.Founded outlook around)
    (knows : ∀ node, outlook.known node around → other.known node elsewhere)
    (owns : ∀ node pool, outlook.owns node pool around → other.owns node pool elsewhere) :
    run.Founded other elsewhere where
  plan node member := knows node (founded.plan node member)
  stages execution running := (founded.stages execution running).mono knows owns

theorem Founded.grows {run : Run} (founded : run.Founded outlook around)
    (grows : outlook.Grows around later) : run.Founded outlook later :=
  founded.mono grows.known grows.owns

def Tallies (key : String) (tried : Prop) (first run : Run) : Prop :=
  ∃ events, run.events = first.events ++ events ∧
    Metrics.Tally key (first.awaited key) (run.awaited key) tried events

section Counts

variable {key : String} {tried further : Prop} {first run after : Run}

theorem Tallies.refl (key : String) (tried : Prop) (run : Run) : run.Tallies key tried run :=
  ⟨[], (List.append_nil _).symm, .apart nofun (Nat.le_refl _)⟩

theorem Tallies.adds (tallies : first.Tallies key tried run) (stays : tried → further)
    {events : List Metrics.Event} (recorded : after.events = run.events ++ events)
    (tally : Metrics.Tally key (run.awaited key) (after.awaited key) further events) :
    first.Tallies key further after := by
  obtain ⟨earlier, same, tallied⟩ := tallies
  exact ⟨earlier ++ events, by rw [recorded, same, List.append_assoc], tallied.append tally stays⟩

theorem Tallies.keeps (tallies : first.Tallies key tried run) (stays : tried → further)
    (recorded : after.events = run.events) (fewer : after.awaited key ≤ run.awaited key) :
    first.Tallies key further after :=
  tallies.adds stays (recorded.trans (List.append_nil _).symm) (.apart nofun fewer)

theorem totalOf_fewer (weight : Execution → Nat) {few executions : List Execution}
    (fewer : few.Sublist executions) : totalOf weight few ≤ totalOf weight executions := by
  induction fewer with
  | slnil => exact Nat.le_refl _
  | cons execution _ ih => exact Nat.le_trans ih (Nat.le_add_left _ _)
  | cons_cons execution _ ih => exact Nat.add_le_add_left ih _

theorem awaited_remove (run : Run) (number : Nat) :
    (run.remove number).awaited key ≤ run.awaited key :=
  totalOf_fewer _ List.filter_sublist

theorem finish_tallies (tallies : first.Tallies key tried run) (stays : tried → further)
    (cluster : Cluster σ) (result : Except RequestError Success) (around : σ) :
    first.Tallies key further (run.finish cluster result around).1 :=
  tallies.adds stays rfl (.apart (Metrics.closingEvents_apart _ _) (Nat.zero_le _))

end Counts

theorem Candidate.known {run : Run} {preferred : Option Node} {node : Node} {plan : Plan}
    (candidate : run.Candidate preferred node plan) (founded : run.Founded outlook around)
    (prefers : ∀ node, preferred = some node → outlook.known node around) :
    outlook.known node around ∧ ∀ other ∈ plan.remaining, other ∈ run.plan.remaining := by
  cases candidate with
  | same => exact ⟨prefers node rfl, fun _ member => member⟩
  | next planned =>
    rw [planned]
    exact ⟨founded.plan node (by simp [planned]), fun _ member => List.mem_cons_of_mem _ member⟩

def Progress.stage? : Progress → Option Stage
  | .onward execution => some execution.stage
  | .waiting execution => some execution.stage
  | .ended _ => none

section Turns

variable {cluster : Cluster σ} {run after : Run} {execution next : Execution} {progress : Progress}
  {key : String} (guides : cluster.Guides outlook)

include guides

theorem turn?_grows (turned : run.turn? cluster around = some (after, later)) :
    outlook.Grows around later where
  known node := turn?_holds (guides.keepsKnown node) turned
  owns node pool := turn?_holds (guides.keepsOwns node pool) turned
  tried key := turn?_holds (guides.keepsTried key) turned

theorem advance_grows (step : run.advance cluster execution around = (progress, after, later)) :
    outlook.Grows around later := by
  have holds {holds : σ → Prop} (keeps : cluster.Keeps holds) (start : holds around) :
      holds later := by
    have advanced := advance_holds keeps run execution start
    rwa [step] at advanced
  exact ⟨fun node => holds (guides.keepsKnown node),
    fun node pool => holds (guides.keepsOwns node pool),
    fun key => holds (guides.keepsTried key)⟩

theorem finish_grows (run : Run) (result : Except RequestError Success) (around : σ) :
    outlook.Grows around (run.finish cluster result around).2 where
  known node := abandonAll_holds (guides.keepsKnown node) run
  owns node pool := abandonAll_holds (guides.keepsOwns node pool) run
  tried key := abandonAll_holds (guides.keepsTried key) run

theorem Advanced.founded
    (advanced : Advanced cluster run execution around progress after later)
    (founded : run.Founded outlook around) (running : execution ∈ run.executions)
    (grows : outlook.Grows around later) :
    (∀ node ∈ after.plan.remaining, outlook.known node later) ∧
      ∀ stage, progress.stage? = some stage → stage.Founded outlook later := by
  have plan := (founded.grows grows).plan
  have own := founded.stages execution running
  have same := own.mono grows.known grows.owns
  -- An execution that has ended relies on nothing any more.
  have ended (stage : Stage) (none : (Option.none : Option Stage) = some stage) :
      stage.Founded outlook later := by cases none
  cases advanced with
  | expired => exact ⟨plan, ended⟩
  | begins stage =>
    rw [stage] at same
    refine ⟨plan, ?_⟩
    rintro _ ⟨⟩
    exact same
  | exhausted => exact ⟨plan, ended⟩
  | unusable stage candidate =>
    rw [stage] at own
    have fewer := (candidate.known founded own).2
    refine ⟨fun node member => plan node (fewer node member), ?_⟩
    rintro _ ⟨⟩
    exact Stage.founded_nowhere _ _
  | usable stage candidate found =>
    rw [stage] at own
    obtain ⟨known, fewer⟩ := candidate.known founded own
    refine ⟨fun node member => plan node (fewer node member), ?_⟩
    rintro _ ⟨⟩
    exact ⟨grows.known _ known, guides.pooled _ _ around _ known found⟩
  | unconnected stage =>
    refine ⟨plan, ?_⟩
    rintro _ ⟨⟩
    exact same
  | refused =>
    refine ⟨plan, ?_⟩
    rintro _ ⟨⟩
    exact Stage.founded_nowhere _ _
  | sends stage =>
    rw [stage] at same
    refine ⟨plan, ?_⟩
    rintro _ ⟨⟩
    exact same.1
  | unanswered stage =>
    refine ⟨plan, ?_⟩
    rintro _ ⟨⟩
    exact same
  | succeeds => exact ⟨plan, ended⟩
  | fails => exact ⟨plan, ended⟩
  | retries stage _ _ retries =>
    rw [stage] at same
    refine ⟨plan, ?_⟩
    rintro _ ⟨⟩
    cases retries with
    | same =>
      rintro _ ⟨⟩
      exact same
    | next => exact Stage.founded_nowhere _ _

theorem Advanced.counts
    (advanced : Advanced cluster run execution around progress after later)
    (founded : run.Founded outlook around) (running : execution ∈ run.executions) :
    ∃ events, after.events = run.events ++ events ∧
      Metrics.Tally key (execution.stage.awaits key) ((progress.stage?.map (·.awaits key)).getD 0)
        (outlook.tried key later) events := by
  -- Most steps neither record anything nor change what is awaited.
  have idle (recorded : after.events = run.events)
      (same : (progress.stage?.map (·.awaits key)).getD 0 = execution.stage.awaits key) :
      ∃ events, after.events = run.events ++ events ∧ Metrics.Tally key
        (execution.stage.awaits key) ((progress.stage?.map (·.awaits key)).getD 0)
          (outlook.tried key later) events :=
    ⟨[], recorded.trans (List.append_nil _).symm, .apart nofun (Nat.le_of_eq same)⟩
  cases advanced with
  | expired stage => exact idle rfl (by rw [stage]; rfl)
  | begins stage => exact idle rfl (by rw [stage]; rfl)
  | exhausted stage => exact idle rfl (by rw [stage]; rfl)
  | unusable stage => exact idle rfl (by rw [stage]; rfl)
  | usable stage => exact idle rfl (by rw [stage]; rfl)
  | unconnected => exact idle rfl rfl
  | refused stage => exact idle rfl (by rw [stage]; rfl)
  | unanswered => exact idle rfl rfl
  | @sends _ node pool handle later stage sent =>
    have own := founded.stages execution running
    rw [stage] at own ⊢
    refine ⟨[.attempt node.address.text], rfl, .attempt ?_⟩
    rintro rfl
    exact guides.sent _ _ _ _ _ _ _ _ own.2 sent
  | @succeeds node _ _ latency _ _ _ _ stage =>
    rw [stage]
    exact ⟨[.outcome node.address.text (latency * 1000) true], rfl, .outcome _ _ _⟩
  | @fails node _ _ latency _ _ _ _ _ _ stage =>
    rw [stage]
    exact ⟨[.outcome node.address.text (latency * 1000) false], rfl, .outcome _ _ _⟩
  | @retries node _ _ latency _ _ _ _ _ _ stage =>
    rw [stage]
    have heard : Metrics.Tally key (if node.address.text = key then 1 else 0) 0
      (outlook.tried key later) [.outcome node.address.text (latency * 1000) false] := .outcome _ _ _
    have retries : Metrics.Tally key 0 0 (outlook.tried key later) [.retry] :=
      .apart (List.forall_mem_singleton.2 rfl) (Nat.le_refl _)
    have tally := heard.append retries id
    refine ⟨_, ?_, tally⟩
    simp [retried, settled, record, enter, attemptRecord]

theorem Taken.founded {turn : Turn} (taken : Taken cluster run around turn after later)
    (founded : run.Founded outlook around) (grows : outlook.Grows around later) :
    after.Founded outlook later := by
  have same := founded.grows grows
  cases taken with
  | cancelled => exact ⟨same.plan, fun _ member => (List.not_mem_nil member).elim⟩
  | expired => exact ⟨same.plan, fun _ member => (List.not_mem_nil member).elim⟩
  | missed =>
    exact ⟨same.plan, fun execution member => same.stages execution (List.mem_filter.1 member).1⟩
  | driven found driven =>
    have running := List.mem_of_find?_eq_some found
    cases driven with
    | onward step =>
      have advanced := advanced_of_step step
      obtain ⟨plan, stage⟩ := advanced.founded guides founded running grows
      refine ⟨plan, ?_⟩
      rw [advanced.updated]
      exact forall_replaced (stage _ rfl) fun other member _ => same.stages other member
    | waits step =>
      refine ⟨same.plan, ?_⟩
      exact forall_replaced (same.stages _ running) fun other member _ => same.stages other member
    | stops step =>
      exact ⟨same.plan, fun execution member => same.stages execution (List.mem_filter.1 member).1⟩
    | ends step =>
      have plan := ((advanced_of_step step).founded guides founded running
        (advance_grows guides step)).1
      exact ⟨fun node member => (finish_grows guides _ _ _).known node (plan node member),
        fun _ member => (List.not_mem_nil member).elim⟩
  | calmed => exact ⟨same.plan, same.stages⟩
  | speculated =>
    refine ⟨same.plan, List.forall_mem_append.2 ⟨same.stages, ?_⟩⟩
    exact List.forall_mem_singleton.2 (Stage.founded_nowhere outlook _)

theorem Taken.tallies {first : Run} {turn : Turn}
    (taken : Taken cluster run around turn after later)
    (unique : (run.executions.map (·.number)).Nodup)
    (founded : run.Founded outlook around) (grows : outlook.Grows around later)
    (tallies : first.Tallies key (outlook.tried key around) run) :
    first.Tallies key (outlook.tried key later) after := by
  have stays := grows.tried key
  cases taken with
  | cancelled => exact finish_tallies tallies stays cluster _ _
  | expired => exact finish_tallies tallies stays cluster _ _
  | missed => exact tallies.keeps stays rfl (awaited_remove run _)
  | @driven execution _ _ found driven =>
    have running := List.mem_of_find?_eq_some found
    cases driven with
    | @onward next _ _ step =>
      have advanced := advanced_of_step step
      obtain ⟨events, recorded, tally⟩ := advanced.counts guides founded running
      have total := totalOf_replaced (fun execution => execution.stage.awaits key) unique running
        advanced.number
      rw [← advanced.updated] at total
      exact tallies.adds stays recorded (tally.moves total)
    -- It waits as before, and nothing was counted.
    | waits step =>
      refine tallies.keeps stays rfl (Nat.le_of_eq ?_)
      rw [update_self unique running]
      rfl
    | stops step => exact tallies.keeps stays rfl (awaited_remove run _)
    | @ends how ended _ step =>
      have advanced := advanced_of_step step
      obtain ⟨events, recorded, tally⟩ := advanced.counts guides founded running
      have total := totalOf_without (fun execution => execution.stage.awaits key) unique running
      have left : (ended.remove execution.number).awaited key =
          totalOf (fun execution => execution.stage.awaits key)
            (run.executions.filter fun other => other.number ≠ execution.number) := by
        simp only [awaited, remove, advanced.executions]
      rw [← left] at total
      refine finish_tallies ?_ ((finish_grows guides _ _ _).tried key) cluster _ _
      exact tallies.adds ((advance_grows guides step).tried key) recorded (tally.moves total)
  | calmed => exact tallies.keeps stays rfl (Nat.le_refl _)
  | speculated =>
    refine tallies.adds stays rfl (.apart (by simp [Metrics.Event.node?]) (Nat.le_of_eq ?_))
    simp [awaited, startExecution, enter, record, Stage.awaits]

theorem steps_tallies {first : Run} (limit : Nat) (pending : run.context.Pending)
    (numbered : run.Numbered) (founded : run.Founded outlook around)
    (tallies : first.Tallies key (outlook.tried key around) run) :
    (run.steps cluster limit around).1.Founded outlook (run.steps cluster limit around).2 ∧
      first.Tallies key (outlook.tried key (run.steps cluster limit around).2)
        (run.steps cluster limit around).1 := by
  -- The first run stays, so that the sums need not be added up again at each turn.
  induction limit generalizing run around with
  | zero => exact ⟨founded, tallies⟩
  | succ limit ih =>
    simp only [Run.steps]
    split
    next => exact ⟨founded, tallies⟩
    next after later turn =>
      obtain ⟨unfinished, turned⟩ := turn?_turned turn
      obtain ⟨_, took⟩ := turn?_take? turn
      have taken := take?_taken took
      have grows := turn?_grows guides turn
      have next := taken.founded guides founded grows
      have counted := taken.tallies guides numbered.unique founded grows tallies
      rcases take?_progresses took pending with onward | ⟨_, ended⟩
      · have still := (numbered_kept cluster).turned pending unfinished numbered turned
        exact ih (onward.pending pending) still next counted
      · rw [steps_finished cluster limit later ended.finished]
        exact ⟨next, counted⟩

theorem poll_tallies (key : String) (pending : run.context.Pending) (numbered : run.Numbered)
    (founded : run.Founded outlook around) :
    (run.poll cluster around).1.Founded outlook (run.poll cluster around).2 ∧
      run.Tallies key (outlook.tried key (run.poll cluster around).2)
        (run.poll cluster around).1 := by
  have sets (execution : Option Nat) (due : Nat) (around : σ) :
      outlook.Grows around (cluster.alarm execution due around) :=
    ⟨fun node => (guides.keepsKnown node).alarm _ _ _,
      fun node pool => (guides.keepsOwns node pool).alarm _ _ _,
      fun key => (guides.keepsTried key).alarm _ _ _⟩
  obtain ⟨stays, counted⟩ := steps_tallies guides run.stepLimit pending numbered
    (founded.grows (sets none run.context.deadline around)) (.refl key _ run)
  simp only [poll]
  split
  next due _ =>
    have grows := sets none due
      (run.steps cluster run.stepLimit (cluster.alarm none run.context.deadline around)).2
    exact ⟨stays.grows grows, counted.keeps (grows.tried key) rfl (Nat.le_refl _)⟩
  next => exact ⟨stays, counted⟩

end Turns

end Run

def awaitedBy (key : String) (run : Option Run) : Nat := (run.map (·.awaited key)).getD 0

namespace Submission

structure Tallies (outlook : Outlook σ) (key : String) (later : σ) (before : Option Run)
    (after : Submission) : Prop where
  founded : ∀ run, after.run = some run → run.Founded outlook later
  counted : Metrics.Tally key (awaitedBy key before) (awaitedBy key after.run)
    (outlook.tried key later) after.events

variable {cluster : Cluster σ} {submission : Submission} {run : Run} {key : String}

theorem Tallies.apart {before : Option Run} (idle : submission.run = none)
    (apart : ∀ event ∈ submission.events, event.node? = none) :
    submission.Tallies outlook key later before where
  founded run born := by
    rw [idle] at born
    cases born
  counted := by
    rw [idle]
    exact .apart apart (Nat.zero_le _)

theorem hold_tallies (idle : submission.run = none) (blank : submission.events = []) (now : Nat)
    (before : Option Run) : (submission.hold now).Tallies outlook key later before := by
  unfold hold RequestContext.giveUp
  cases submission.context.giveUp? now with
  | none =>
    refine .apart idle ?_
    rw [blank]
    exact nofun
  | some cause =>
    refine .apart idle ?_
    simp only [count, blank, List.nil_append, RequestContext.conclude]
    exact List.forall_mem_cons.2 ⟨rfl, Metrics.closingEvents_apart _ _⟩

section Turns

variable (guides : cluster.Guides outlook)

include guides

theorem poll_tallies (underWay : submission.run = some run)
    (apart : ∀ event ∈ submission.events, event.node? = none)
    (pending : submission.context.Pending)
    (numbered : Run.Numbered { run with context := submission.context })
    (founded : run.Founded outlook around) :
    (submission.poll cluster around).1.Tallies outlook key (submission.poll cluster around).2
      (some run) := by
  have same : Run.Founded outlook around { run with context := submission.context } :=
    ⟨founded.plan, founded.stages⟩
  obtain ⟨stays, events, recorded, tally⟩ := Run.poll_tallies guides key pending numbered same
  simp only [poll, underWay, adopt, count]
  generalize Run.poll cluster { run with context := submission.context } around = polled at *
  have fresh : polled.1.events.drop run.events.length = events := by
    rw [recorded, List.drop_left]
  refine ⟨?_, ?_⟩
  · rintro _ ⟨⟩
    exact stays
  · rw [fresh]
    exact .append (.apart apart (Nat.le_refl _)) tally id

theorem start_tallies {registry : ProfileRegistry} {codec : Codec} (idle : submission.run = none)
    (blank : submission.events = []) (goesOn : submission.isOver = false)
    (fresh : submission.context.Fresh) (sound : outlook.sound around) :
    (submission.start cluster registry codec around).1.Tallies outlook key
      (submission.start cluster registry codec around).2 none := by
  rcases @start_cases _ cluster registry codec submission goesOn around with
    ⟨cause, _, _, born, counted⟩ | ⟨build, plan, later, planned, prepared, same⟩
  · refine .apart (born.trans idle) ?_
    rw [counted, blank, List.nil_append]
    exact List.forall_mem_cons.2 ⟨rfl, Metrics.closingEvents_apart _ _⟩
  · have unstarted := Run.prepare_unstarted prepared plan
    obtain ⟨own, _, _⟩ := prepare_ok prepared plan
    have known := guides.planned submission.options.routingKey around sound
    rw [planned] at known
    have founded : ((build plan).startExecution (cluster.now later)).Founded outlook later := by
      refine ⟨fun node member => known node ?_, ?_⟩
      · have same : ((build plan).startExecution (cluster.now later)).plan = plan := unstarted.plan
        rwa [same] at member
      · simp only [Run.startExecution, unstarted.executions, List.nil_append]
        exact List.forall_mem_singleton.2 (Stage.founded_nowhere outlook _)
    have started : ((build plan).startExecution (cluster.now later)).awaited key = 0 := by
      simp [Run.awaited, Run.startExecution, unstarted.executions, Stage.awaits]
    have numbered : Run.Numbered { (build plan).startExecution (cluster.now later) with
        context := submission.context } := by
      have starts : ((build plan).startExecution (cluster.now later)).context =
        submission.context := own
      rw [Run.with_own_context starts]
      exact Run.started_numbered fresh prepared plan _
    rw [same]
    have tallies := @poll_tallies _ _ _ _ { submission.count [.submitted] with
      run := some ((build plan).startExecution (cluster.now later)) } _ key guides rfl
      (by simp [count, blank, Metrics.Event.node?]) fresh.pending numbered founded
    refine ⟨tallies.founded, ?_⟩
    have counted := tallies.counted
    rwa [show awaitedBy key (some _) = 0 from started] at counted

end Turns

end Submission

end ClusterDriver
