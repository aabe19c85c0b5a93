import ClusterDriver.Proofs.Channel.Conversation

set_option autoImplicit false

namespace ClusterDriver.History

open Channel

def Recorded (history : History) : Prop :=
  ∀ request opcode body, .send request opcode body ∈ history.channel.commands →
    ⟨request, opcode, body⟩ ∈ history.tickets

theorem act_queue (history : History) {action : Action}
    (noEvent : ∀ now fault event, action ≠ .event now fault event) :
    (∃ opcode body,
      (history.act action).tickets =
        history.tickets ++ [⟨history.channel.nextRequest, opcode, body⟩] ∧
      (history.act action).channel.commands =
        history.channel.commands ++ [.send history.channel.nextRequest opcode body]) ∨
      (history.act action).tickets = history.tickets ∧ ∃ others, queuedRequests others = [] ∧
        (history.act action).channel.commands = history.channel.commands ++ others := by
  have unchanged : ∃ others, queuedRequests others = [] ∧
      history.channel.commands = history.channel.commands ++ others :=
    ⟨[], rfl, (List.append_nil _).symm⟩
  have acted := history.act_acted action
  generalize history.act action = later at acted ⊢
  cases acted with
  | idle => exact .inr ⟨rfl, unchanged⟩
  | sent => exact .inl ⟨_, _, rfl, rfl⟩
  | entered => exact .inr ⟨rfl, unchanged⟩
  | submitted => exact .inl ⟨_, _, rfl, rfl⟩
  | turnedAway => exact .inr ⟨rfl, unchanged⟩
  | @queued _ command closing _ other =>
    right
    rcases enqueue_cases { history.channel with closing } command with same | same
    · rw [same]
      exact ⟨rfl, unchanged⟩
    · rw [same]
      exact ⟨rfl, [command], other, rfl⟩
  | happened => exact absurd rfl (noEvent _ _ _)

theorem Reached.act {history : History} (reached : history.Reached) (action : Action) :
    (history.act action).Reached := by
  obtain ⟨limits, start, actions, rfl⟩ := reached
  exact ⟨limits, start, actions ++ [action], (run_append _ actions [action]).symm⟩

theorem Reached.queued_once {history : History} (reached : history.Reached)
    (request : RequestId) : (queuedRequests history.channel.commands).count request ≤ 1 := by
  have once := reached.tracked.once request
  rw [places, waiting, List.count_append] at once
  omega

end ClusterDriver.History

namespace ClusterDriver.Conversation

open Channel

theorem mem_receivers {letter delivered : Letter} {reaction : Reaction} {request : RequestId} :
    (request, delivered) ∈ receivers letter reaction ↔
      letter = delivered ∧ ∃ frame, (request, .ok frame) ∈ reaction.replies := by
  rw [receivers, List.mem_filterMap]
  constructor
  · rintro ⟨⟨told, reply⟩, member, found⟩
    cases reply with
    | ok frame =>
      obtain ⟨rfl, rfl⟩ : told = request ∧ letter = delivered := by simpa using found
      exact ⟨rfl, frame, member⟩
    | error => cases found
  · rintro ⟨rfl, frame, member⟩
    exact ⟨_, member, rfl⟩

theorem reaction_reply_ok {conversation : Conversation} {now : Nat} {fault : Option DriverError}
    {event : Event} {request : RequestId} {frame : Frame}
    (told : (request, .ok frame) ∈ (conversation.reaction now fault event).replies) :
    conversation.history.channel.isClosed = false ∧ event = .frame frame ∧
      conversation.history.channel.pending[frame.stream]? = some request := by
  cases isOpen : conversation.history.channel.isClosed with
  | true => simp [reaction, react, isOpen] at told
  | false => exact ⟨rfl, react_reply_ok isOpen now fault event told⟩

def asked (conversation : Conversation) : List RequestId :=
  conversation.written.filterMap (·.owner)

def Worded (conversation : Conversation) (exchange : Exchange) : Prop :=
  ∀ request, exchange.owner = some request → ∃ ticket ∈ conversation.history.tickets,
    ticket.request = request ∧
      exchange.question = .request exchange.stream ticket.opcode ticket.body

def AnswerTo (conversation : Conversation) (request : RequestId) (letter : Letter) : Prop :=
  ∃ exchange, letter.answers = some exchange ∧ exchange.owner = some request ∧
    (exchange, letter.frame) ∈ conversation.answers

/-- Every written frame and every delivered letter belongs to one request. -/
structure Attributed (conversation : Conversation) : Prop where
  recorded : conversation.history.Recorded
  known : conversation.asked ⊆ conversation.history.issued
  once : ∀ request, (queuedRequests conversation.history.channel.commands).count request
    + conversation.asked.count request ≤ 1
  worded : ∀ exchange ∈ conversation.written, conversation.Worded exchange
  delivered : ∀ request letter, (request, letter) ∈ conversation.delivered →
    conversation.AnswerTo request letter
  completed : ∀ request frame, (request, .ok frame) ∈ conversation.history.completed →
    ∃ letter, (request, letter) ∈ conversation.delivered ∧ letter.frame = frame

theorem opened_attributed (limits : ChannelLimits) (start : Nat) :
    (opened limits start).Attributed where
  recorded := nofun
  known := nofun
  once := fun _ => Nat.zero_le _
  worded := nofun
  delivered := fun _ _ member => absurd member List.not_mem_nil
  completed := fun _ _ member => absurd member List.not_mem_nil

namespace Attributed

variable {conversation : Conversation}

theorem rearranged (attributed : conversation.Attributed) {later : Conversation}
    (history : later.history = conversation.history)
    (delivered : later.delivered = conversation.delivered)
    (same : later.written.Perm conversation.written)
    (more : conversation.answers ⊆ later.answers) : later.Attributed := by
  have asked : later.asked.Perm conversation.asked := same.filterMap _
  exact {
    recorded := history ▸ attributed.recorded
    known := by
      rw [history]
      exact fun request member => attributed.known (asked.mem_iff.1 member)
    once := by
      intro request
      rw [history, asked.count_eq]
      exact attributed.once request
    worded := by
      intro exchange member
      unfold Worded
      rw [history]
      exact attributed.worded exchange (same.mem_iff.1 member)
    delivered := by
      intro request letter member
      rw [delivered] at member
      obtain ⟨exchange, answers, owner, given⟩ := attributed.delivered request letter member
      exact ⟨exchange, answers, owner, more given⟩
    completed := by
      rw [history, delivered]
      exact attributed.completed }

theorem used (attributed : conversation.Attributed) (reached : conversation.history.Reached)
    (action : History.Action) (noEvent : ∀ now fault event, action ≠ .event now fault event) :
    { conversation with history := conversation.history.act action }.Attributed := by
  have completed : (conversation.history.act action).completed =
      conversation.history.completed := by
    rcases History.act_cases conversation.history action with ⟨_, same⟩ | ⟨_, _, _, _, happens⟩
    · exact same
    · exact absurd happens (noEvent _ _ _)
  have finish (tickets : conversation.history.tickets ⊆ (conversation.history.act action).tickets)
      (recorded : (conversation.history.act action).Recorded)
      (queue : ∀ request ∈ conversation.history.issued,
        (queuedRequests (conversation.history.act action).channel.commands).count request =
          (queuedRequests conversation.history.channel.commands).count request) :
      { conversation with history := conversation.history.act action }.Attributed := {
    recorded
    known := fun request member =>
      List.map_subset _ tickets (attributed.known member)
    once := by
      intro request
      by_cases member : request ∈ conversation.asked
      · have same := queue request (attributed.known member)
        exact same ▸ attributed.once request
      · -- A request that was never written is queued once at most.
        have new := (reached.act action).queued_once request
        have never := List.count_eq_zero.2 member
        have unasked : asked { conversation with history := conversation.history.act action } =
            conversation.asked := rfl
        rw [unasked, never]
        exact new
    worded := by
      intro exchange member request owner
      obtain ⟨ticket, found, same⟩ := attributed.worded exchange member request owner
      exact ⟨ticket, tickets found, same⟩
    delivered := attributed.delivered
    completed := by
      simp only [completed]
      exact attributed.completed }
  rcases History.act_queue conversation.history noEvent with
    ⟨opcode, body, tickets, commands⟩ | ⟨tickets, others, none, commands⟩
  · refine finish (by simp [tickets]) ?_ ?_
    · intro request opcode body member
      rw [commands, List.mem_append, List.mem_singleton] at member
      rw [tickets, List.mem_append, List.mem_singleton]
      rcases member with old | new
      · exact .inl (attributed.recorded request opcode body old)
      · cases new
        exact .inr rfl
    · intro request member
      have older := reached.tracked.older request member
      have different : conversation.history.channel.nextRequest ≠ request :=
        (Nat.ne_of_lt older).symm
      simp [commands, queuedRequests, different]
  · refine finish (by simp [tickets]) ?_ ?_
    · intro request opcode body member
      rw [commands, List.mem_append] at member
      rw [tickets]
      rcases member with old | new
      · exact attributed.recorded request opcode body old
      · have queued : request ∈ queuedRequests others := mem_queuedRequests.2 ⟨opcode, body, new⟩
        rw [none] at queued
        cases queued
    · intro request member
      rw [commands, queuedRequests_append, none, List.append_nil]

theorem happened (attributed : conversation.Attributed) (now : Nat) (fault : Option DriverError)
    (event : Event) {rest : List Letter} {delivered : List (RequestId × Letter)}
    (more : conversation.delivered ⊆ delivered)
    (given : ∀ request letter, (request, letter) ∈ delivered →
      conversation.AnswerTo request letter)
    (told : ∀ request frame,
      (request, .ok frame) ∈ (conversation.reaction now fault event).replies →
        ∃ letter, (request, letter) ∈ delivered ∧ letter.frame = frame) :
    Attributed { conversation.happen now fault event with inbound := rest, delivered } := by
  cases isOpen : conversation.history.channel.isClosed with
  | true =>
    rw [happen_closed isOpen]
    exact { attributed with
      delivered := given
      completed := by
        intro request frame member
        obtain ⟨letter, old, same⟩ := attributed.completed request frame member
        exact ⟨letter, more old, same⟩ }
  | false =>
    have handled := handle_handled conversation.history.channel now fault event
    have frames := react_frames isOpen now fault event
    have fewer := react_count_begun isOpen now fault event
    -- For counting, what the event begins may stand in front of what was written before.
    have rearranged : List.Perm
        (written { conversation.happen now fault event with inbound := rest, delivered })
        (conversation.history.channel.begun event (conversation.reaction now fault event)
          ++ conversation.written) := by
      simp only [written, happen, List.append_assoc]
      exact List.perm_append_comm_assoc _ _ _
    have question {exchange : Exchange} (member : exchange ∈
        conversation.history.channel.begun event (conversation.reaction now fault event)) :
        conversation.Worded exchange := by
      intro request owner
      rw [reaction, begun, frames] at member
      obtain ⟨opcode, body, queued, same⟩ := handled.begun_question member owner
      exact ⟨_, attributed.recorded request opcode body queued, rfl, same⟩
    exact {
      recorded := fun request opcode body member =>
        attributed.recorded request opcode body (react_commands isOpen now fault event member)
      known := by
        intro request member
        obtain ⟨exchange, member, owner⟩ := List.mem_filterMap.1 member
        rcases List.mem_append.1 (rearranged.mem_iff.1 member) with new | old
        · obtain ⟨ticket, found, rfl, _⟩ := question new request owner
          exact List.mem_map_of_mem found
        · exact attributed.known (List.mem_filterMap.2 ⟨exchange, old, owner⟩)
      once := by
        intro request
        have before := attributed.once request
        have after := fewer request
        rw [asked, (rearranged.filterMap _).count_eq, List.filterMap_append, List.count_append]
        rw [asked] at before
        simp only [happen, History.act, reaction]
        omega
      worded := by
        intro exchange member
        rcases List.mem_append.1 (rearranged.mem_iff.1 member) with new | old
        · exact question new
        · exact attributed.worded exchange old
      delivered := given
      completed := by
        intro request frame member
        rcases List.mem_append.1 member with old | new
        · obtain ⟨letter, found, same⟩ := attributed.completed request frame old
          exact ⟨letter, more found, same⟩
        · exact told request frame new }

theorem arrived (attributed : conversation.Attributed) (orderly : conversation.Orderly)
    (reached : conversation.history.Reached) {letter : Letter} {rest : List Letter}
    (first : conversation.inbound = letter :: rest) (now : Nat) (fault : Option DriverError) :
    Attributed { conversation.happen now fault (.frame letter.frame) with
      inbound := rest
      delivered := conversation.delivered ++
        receivers letter (conversation.reaction now fault (.frame letter.frame)) } := by
  have member : letter ∈ conversation.inbound := by simp [first]
  refine attributed.happened now fault _ (List.subset_append_left _ _) ?_ ?_
  · intro request other found
    rcases List.mem_append.1 found with old | new
    · exact attributed.delivered request other old
    · obtain ⟨rfl, frame, told⟩ := mem_receivers.1 new
      obtain ⟨isOpen, same, pending⟩ := reaction_reply_ok told
      cases same
      have consistent := reached.consistent isOpen
      have genuine := orderly.genuine letter member
      -- A letter that answers nothing is an event, on the stream that no request ever has.
      -- One that does is on the stream of its exchange, where nobody else can wait.
      cases answered : letter.answers with
      | none =>
        rw [Genuine, answered] at genuine
        rw [genuine.2] at pending
        exact absurd rfl (consistent.ne_eventStream (Consistent.owned_pending pending))
      | some exchange =>
        rw [Genuine, answered] at genuine
        have expected : exchange ∈ conversation.exchanges := by
          simp [exchanges, first, answered]
        have filed := orderly.filed isOpen exchange expected
        rw [genuine.2.1] at pending
        exact ⟨exchange, answered, filed.owner_pending consistent pending, genuine.2.2⟩
  · intro request frame told
    obtain ⟨_, same, _⟩ := reaction_reply_ok told
    cases same
    exact ⟨letter, List.mem_append_right _ (mem_receivers.2 ⟨rfl, _, told⟩), rfl⟩

end Attributed

theorem act_attributed (conversation : Conversation) (move : Move)
    (reached : conversation.history.Reached) (orderly : conversation.Orderly)
    (attributed : conversation.Attributed) : (conversation.act move).Attributed := by
  cases move with
  | user action =>
    rcases act_user_cases conversation action with
      same | ⟨now, fault, event, noFrame, same⟩ | ⟨noEvent, same⟩
    · rwa [same]
    · rw [same]
      -- Only a frame makes a reply that is no error.
      exact attributed.happened now fault event (List.Subset.refl _) attributed.delivered
        fun _ frame told => absurd (reaction_reply_ok told).2.1 (noFrame frame)
    · rw [same]
      exact attributed.used reached action noEvent
  | receive =>
    simp only [act]
    split
    next => exact attributed
    next exchange rest first =>
      refine attributed.rearranged rfl rfl ?_ (List.Subset.refl _)
      simp only [written, first]
      exact received_perm exchange rest _ _
  | answer index frame =>
    simp only [act]
    split
    next => exact attributed
    next exchange found =>
      split
      next =>
        obtain ⟨inside, rfl⟩ := List.getElem?_eq_some_iff.1 found
        refine attributed.rearranged rfl rfl ?_ (List.subset_append_left _ _)
        simp only [written, List.map_append]
        exact answered_perm conversation.outbound _ inside
      next => exact attributed
  | push frame =>
    simp only [act]
    split
    next => exact attributed.rearranged rfl rfl (List.Perm.refl _) (List.Subset.refl _)
    next => exact attributed
  | arrive now fault =>
    simp only [act]
    split
    next => exact attributed
    next letter rest first => exact attributed.arrived orderly reached first now fault

def Reached (conversation : Conversation) : Prop :=
  ∃ limits start moves, conversation = (opened limits start).run moves

theorem act_history (conversation : Conversation) (move : Move) :
    (conversation.act move).history = conversation.history ∨
      ∃ action, (conversation.act move).history = conversation.history.act action := by
  cases move with
  | user action =>
    rcases act_user_cases conversation action with
      same | ⟨now, fault, event, _, same⟩ | ⟨_, same⟩
    · exact .inl (congrArg history same)
    · exact .inr ⟨.event now fault event, congrArg history same⟩
    · exact .inr ⟨action, congrArg history same⟩
  | receive =>
    left
    simp only [act]
    split <;> rfl
  | answer index frame =>
    left
    simp only [act]
    split
    next => rfl
    next => split <;> rfl
  | push frame =>
    left
    simp only [act]
    split <;> rfl
  | arrive now fault =>
    simp only [act]
    split
    next => exact .inl rfl
    next letter rest first => exact .inr ⟨.event now fault (.frame letter.frame), rfl⟩

theorem run_invariants {conversation : Conversation} (reached : conversation.history.Reached)
    (orderly : conversation.Orderly) (attributed : conversation.Attributed) (moves : List Move) :
    (conversation.run moves).history.Reached ∧ (conversation.run moves).Orderly ∧
      (conversation.run moves).Attributed := by
  induction moves generalizing conversation with
  | nil => exact ⟨reached, orderly, attributed⟩
  | cons move rest ih =>
    apply ih
    · rcases act_history conversation move with same | ⟨action, same⟩
      · exact same ▸ reached
      · exact same ▸ reached.act action
    · exact act_orderly conversation move reached orderly
    · exact act_attributed conversation move reached orderly attributed

theorem Reached.invariants {conversation : Conversation} (reached : conversation.Reached) :
    conversation.history.Reached ∧ conversation.Orderly ∧ conversation.Attributed := by
  obtain ⟨limits, start, moves, rfl⟩ := reached
  exact run_invariants ⟨limits, start, [], rfl⟩ (opened_orderly limits start)
    (opened_attributed limits start) moves

/-- The server is asked each request once at most and so gives one answer to it. A response that
completes a request is this answer, to the question of the request's ticket; the late answer to a
request that was given up reaches nobody else. No response is ever rejected. -/
theorem Reached.answers_reach_requests {conversation : Conversation}
    (reached : conversation.Reached) :
    conversation.history.channel.rejected = 0 ∧
      conversation.history.issued.Nodup ∧
      (conversation.answers.filterMap (·.1.owner)).Nodup ∧
      (∀ request frame, (request, .ok frame) ∈ conversation.history.completed →
        ∃ letter, (request, letter) ∈ conversation.delivered ∧ letter.frame = frame) ∧
      ∀ request letter, (request, letter) ∈ conversation.delivered →
        ∃ exchange ticket, letter.answers = some exchange ∧ exchange.owner = some request ∧
          (exchange, letter.frame) ∈ conversation.answers ∧
          ticket ∈ conversation.history.tickets ∧ ticket.request = request ∧
          exchange.question = .request exchange.stream ticket.opcode ticket.body := by
  obtain ⟨past, orderly, attributed⟩ := reached.invariants
  refine ⟨orderly.accepted, past.tracked.distinct, ?_, attributed.completed, ?_⟩
  · have among : (conversation.answers.filterMap (·.1.owner)).Sublist conversation.asked := by
      rw [asked, written, List.filterMap_append, List.filterMap_map]
      exact List.sublist_append_right _ _
    refine List.Nodup.sublist among ?_
    rw [List.nodup_iff_count_le_one]
    intro request
    have once := attributed.once request
    omega
  · intro request letter member
    obtain ⟨exchange, answers, owner, given⟩ := attributed.delivered request letter member
    have known : exchange ∈ conversation.written :=
      List.mem_append_right _ (List.mem_map.2 ⟨_, given, rfl⟩)
    obtain ⟨ticket, found, same, question⟩ := attributed.worded exchange known request owner
    exact ⟨exchange, ticket, answers, owner, given, found, same, question⟩

def belated : Conversation :=
  (opened ⟨3, 0, 5, 5, 1, 0⟩ 0).run
    [.user (.send .query ByteArray.empty), .user (.event 0 none .command), .receive,
      .user (.abandon 0), .user (.event 0 none .command),
      .user (.send .query ByteArray.empty), .user (.event 1 none .command), .receive,
      .answer 0 (.response 0 .result ByteArray.empty), .arrive 2 none,
      .user (.send .query ByteArray.empty), .user (.event 3 none .command), .receive,
      .answer 1 (.response 0 .error ByteArray.empty), .arrive 4 none]

theorem belated_answers_reach_requests :
    belated.Reached ∧ belated.history.channel.rejected = 0 ∧
      belated.history.abandoned = [0] ∧ belated.answers.filterMap (·.1.owner) = [0, 2] ∧
      belated.delivered.map (·.1) = [2] ∧
      ∀ request frame, (request, .ok frame) ∈ belated.history.completed →
        ∃ letter, (request, letter) ∈ belated.delivered ∧ letter.frame = frame := by
  have reached : belated.Reached := ⟨_, _, _, rfl⟩
  obtain ⟨accepted, _, _, completed, _⟩ := reached.answers_reach_requests
  exact ⟨reached, accepted, by decide, by decide, by decide, completed⟩

end ClusterDriver.Conversation
