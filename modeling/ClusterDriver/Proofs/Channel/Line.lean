import ClusterDriver.Proofs.Channel.Parting

set_option autoImplicit false

namespace ClusterDriver

structure Line where
  limits : ChannelLimits
  start : Nat
  actions : List History.Action

namespace Line

open Channel History

def past (line : Line) (actions : List Action) : History :=
  (History.opened line.limits line.start).run actions

def history (line : Line) : History := line.past line.actions

def act (line : Line) (action : Action) : Line :=
  { line with actions := line.actions ++ [action] }

def Before (earlier later : Line) : Prop :=
  ∃ further, later = { earlier with actions := earlier.actions ++ further }

def Abandons (line : Line) (request : RequestId) : Prop :=
  ∃ before after, line.actions = before ++ .abandon request :: after ∧
    (line.past (before ++ [.abandon request])).channel.commands =
      (line.past before).channel.commands ++ [.abandon request]

/-- The owner of a request has its result, or there is a command to abandon it. -/
def Settles (line : Line) (request : RequestId) : Prop :=
  line.history.isCompleted request ∨ line.Abandons request

variable {line later : Line} {request : RequestId}

theorem reached (line : Line) (actions : List Action) : (line.past actions).Reached :=
  ⟨_, _, _, rfl⟩

theorem inOrder (line : Line) (actions : List Action) : (line.past actions).InOrder :=
  run_inOrder _ _ _

theorem past_append (line : Line) (before after : List Action) :
    line.past (before ++ after) = (line.past before).run after :=
  run_append _ _ _

theorem past_concat (line : Line) (before : List Action) (action : Action) :
    line.past (before ++ [action]) = (line.past before).act action :=
  past_append line before [action]

theorem history_act (line : Line) (action : Action) :
    (line.act action).history = line.history.act action :=
  past_concat line line.actions action

namespace Before

theorem refl (line : Line) : line.Before line := ⟨[], by simp⟩

theorem act (line : Line) (action : Action) : line.Before (line.act action) := ⟨[action], rfl⟩

theorem trans {last : Line} (first : line.Before later) (second : later.Before last) :
    line.Before last := by
  obtain ⟨further, rfl⟩ := first
  obtain ⟨more, rfl⟩ := second
  exact ⟨further ++ more, by simp⟩

theorem keeps (before : line.Before later) (property : History → Prop)
    (step : ∀ history action, History.Reached history → property history →
      property (history.act action))
    (holds : property line.history) : property later.history := by
  obtain ⟨further, rfl⟩ := before
  induction further using List.reverseRecOn with
  | nil => simpa [history, past] using holds
  | append_singleton further action ih =>
    have next := step _ action (line.reached (line.actions ++ further)) ih
    rw [← past_concat, List.append_assoc] at next
    exact next

theorem issued (before : line.Before later) (issued : request ∈ line.history.issued) :
    request ∈ later.history.issued :=
  before.keeps (request ∈ ·.issued) (fun _ action _ issued => act_issued issued action) issued

theorem completed (before : line.Before later) {answer : RequestId × Reply}
    (told : answer ∈ line.history.completed) : answer ∈ later.history.completed :=
  before.keeps (answer ∈ ·.completed) (fun _ action _ told => act_completed told action) told

theorem settles (before : line.Before later) (settles : line.Settles request) :
    later.Settles request := by
  rcases settles with completed | ⟨first, rest, split, queued⟩
  · left
    simp only [isCompleted, decide_eq_true_eq, List.mem_map] at completed ⊢
    obtain ⟨answer, told, same⟩ := completed
    exact ⟨answer, before.completed told, same⟩
  · obtain ⟨further, rfl⟩ := before
    exact .inr ⟨first, rest ++ further, by simp [split], queued⟩

theorem parts (before : line.Before later) (issued : request ∈ line.history.issued)
    (parts : line.history.channel.Parts request) : later.history.channel.Parts request := by
  have step : ∀ history action, History.Reached history →
      request ∈ history.issued ∧ history.channel.Parts request →
        request ∈ (history.act action).issued ∧ (history.act action).channel.Parts request := by
    rintro history action reached ⟨issued, parts⟩
    exact ⟨act_issued issued action,
      act_parts (fun isOpen => reached.consistent isOpen) reached.tracked issued parts action⟩
  exact (before.keeps (fun history => request ∈ history.issued ∧ history.channel.Parts request) step
    ⟨issued, parts⟩).2

end Before

theorem abandons_of_abandoned (line : Line) (abandoned : request ∈ line.history.abandoned) :
    line.Abandons request := by
  -- A request that was given up before it was completed was given up while the connection was
  -- open, so that the command to abandon it could be queued.
  obtain ⟨limits, start, actions⟩ := line
  induction actions using List.reverseRecOn with
  | nil => cases abandoned
  | append_singleton actions action ih =>
    have onward (earlier : Abandons ⟨limits, start, actions⟩ request) :
        Abandons ⟨limits, start, actions ++ [action]⟩ request := by
      obtain ⟨before, after, split, queued⟩ := earlier
      exact ⟨before, after ++ [action], by simp_all, queued⟩
    rw [history, past_concat] at abandoned
    rcases act_abandoned abandoned with before | ⟨rfl, issued, incomplete⟩
    · exact onward (ih before)
    cases isOpen : (past ⟨limits, start, actions⟩ actions).channel.isClosed with
    | false =>
      refine ⟨actions, [], rfl, ?_⟩
      rw [past_concat]
      exact act_abandon_queues issued isOpen
    | true =>
      -- A connection that ends answers all who wait, so this one had been given up before.
      have tracked := (reached ⟨limits, start, actions⟩ actions).tracked
      refine onward (ih ((tracked.kept request issued).resolve_left fun placed => ?_))
      rw [places, tracked.finished isOpen, List.count_nil, Nat.zero_add] at placed
      exact Bool.false_ne_true (incomplete.symm.trans (isCompleted_iff.2 placed))

theorem settles_act (issued : request ∈ line.history.issued) :
    (line.act (.abandon request)).Settles request := by
  cases completed : line.history.isCompleted request with
  | true => exact (Before.act line _).settles (.inl completed)
  | false =>
    refine .inr (abandons_of_abandoned _ ?_)
    rw [history_act]
    simp [History.act, issued, completed]

theorem Abandons.parts (abandons : line.Abandons request) :
    line.history.channel.Parts request := by
  obtain ⟨before, after, split, queued⟩ := abandons
  have earlier : Before { line with actions := before ++ [.abandon request] } line := by
    refine ⟨after, ?_⟩
    rw [List.append_assoc, List.singleton_append, ← split]
  have issued : request ∈ (line.past before).issued := by
    by_contra unknown
    rw [past_concat] at queued
    simp [History.act, unknown] at queued
  refine earlier.parts ?_ (.inr ⟨_, [], queued, List.not_mem_nil⟩)
  have still := act_issued issued (.abandon request)
  rwa [← past_concat] at still

theorem Settles.parts (settles : line.Settles request) : line.history.channel.Parts request := by
  rcases settles with completed | abandons
  · left
    have once := (line.reached line.actions).tracked.once request
    have placed := isCompleted_iff.1 completed
    simp only [places] at once
    rw [history] at placed ⊢
    rw [← List.count_eq_zero]
    omega
  · exact abandons.parts

theorem Settles.gone (settles : line.Settles request) (before : line.Before later)
    (processed : .abandon request ∉ later.history.channel.commands) :
    request ∉ later.history.channel.waiting := by
  rcases (before.settles settles).parts with gone | ⟨first, rest, queue, _⟩
  · exact gone
  · exact absurd (by simp [queue]) processed

theorem Before.stream (before : line.Before later) {stream : StreamId}
    (used : line.history.channel.pending[stream]? = some request) :
    later.history.channel.Keeps stream request ∨
      ∃ between, line.Before between ∧ between.Before later ∧
        ¬between.history.channel.ids.Holds stream := by
  obtain ⟨further, rfl⟩ := before
  induction further using List.reverseRecOn with
  | nil =>
    left
    rw [List.append_nil]
    exact .inl used
  | append_singleton further action ih =>
    rcases ih with keeps | ⟨between, first, last, free⟩
    · have inOrder := line.inOrder (line.actions ++ further)
      have next := act_keeps inOrder keeps action
      rw [← past_concat, List.append_assoc] at next
      exact next.imp_right fun free => ⟨_, ⟨_, rfl⟩, .refl _, free⟩
    · refine .inr ⟨between, first, last.trans ⟨[action], ?_⟩, free⟩
      simp

theorem Before.leaves_stream (before : line.Before later) {stream : StreamId}
    (used : line.history.channel.pending[stream]? = some request)
    (gone : request ∉ later.history.channel.waiting) :
    stream ∈ later.history.channel.orphans ∨
      ∃ between, line.Before between ∧ between.Before later ∧
        ¬between.history.channel.ids.Holds stream := by
  rcases before.stream used with (pending | orphan) | free
  · exact absurd (List.mem_append_left _ (mem_values.2 ⟨stream, pending⟩)) gone
  · exact .inl orphan
  · exact .inr free

end Line

end ClusterDriver
