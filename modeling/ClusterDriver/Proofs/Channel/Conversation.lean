import ClusterDriver.Proofs.Channel.Completion

/-!
A connection and the server at its other end. The server takes the written frames in order and
answers each once at most, on its stream, in any order; what it has sent is read in order. A frame
that has been written and whose answer has not been read is an exchange. Each exchange has a stream
of its own, which the connection keeps for the request it was written for, for an orphan or for the
heartbeat. So an answer reaches the request it was given to, or nobody.
-/

set_option autoImplicit false

namespace ClusterDriver

/-- A frame that was written, and the request it was written for; a heartbeat has no owner. -/
structure Exchange where
  owner : Option RequestId
  question : Frame

namespace Exchange

def stream (exchange : Exchange) : StreamId := exchange.question.stream

def Filed (exchange : Exchange) (channel : Channel) : Prop :=
  match exchange.owner with
  | none => channel.heartbeat.map (·.stream) = some exchange.stream
  | some request =>
      channel.pending[exchange.stream]? = some request ∨ exchange.stream ∈ channel.orphans

end Exchange

namespace Channel

def speaker (channel : Channel) : Event → Option RequestId
  | .command => (queuedRequests (channel.commands.take 1)).head?
  | _ => none

def begun (channel : Channel) (event : Event) (reaction : Reaction) : List Exchange :=
  reaction.frames.map fun frame => ⟨channel.speaker event, frame⟩

end Channel

/-! ### Exchanges and the tables of a connection -/

namespace Exchange

open Channel

variable {channel : Channel} {entered : Nat} {exchange : Exchange}

theorem Filed.owned (filed : exchange.Filed channel) : 0 < channel.owners exchange.stream := by
  unfold Filed at filed
  unfold owners
  split at filed
  next =>
    simp only [filed, if_true]
    omega
  next =>
    rcases filed with found | orphan
    · exact Consistent.owned_pending found
    · have present := List.count_pos_iff.2 orphan
      omega

theorem Filed.ne_acquired (filed : exchange.Filed channel) (consistent : channel.Consistent entered)
    {stream : StreamId} {ids : StreamIds} (acquired : channel.ids.acquire? = some (stream, ids)) :
    exchange.stream ≠ stream := by
  intro same
  have unowned := consistent.owners_acquired acquired
  have owned := filed.owned
  rw [same, unowned] at owned
  exact absurd owned (Nat.lt_irrefl 0)

theorem Filed.handled (filed : exchange.Filed channel) (consistent : channel.Consistent entered)
    {event : Event} {reaction : Reaction} (handled : Handled channel event reaction)
    (other : ∀ frame, event = .frame frame → frame.stream ≠ exchange.stream) :
    exchange.Filed reaction.channel := by
  unfold Filed at filed ⊢
  cases handled with
  | quiet => exact filed
  | refused => exact filed
  | starved => exact filed
  | @sent _ _ _ _ stream _ _ _ first acquired =>
    have different : stream ≠ exchange.stream := fun same =>
      Filed.ne_acquired filed consistent acquired same.symm
    simpa [Std.TreeMap.getElem?_insert, different] using filed
  | @orphaned _ _ stream _ first found =>
    by_cases same : stream = exchange.stream
    · -- The answer is still expected, but as that of an orphan.
      cases owner : exchange.owner with
      | none => simpa [owner] using filed
      | some request => simp [same]
    · simpa [Std.TreeMap.getElem?_erase, same, Ne.symm same] using filed
  | @answered frame =>
    have different := other frame rfl
    simpa [freeStream_eq, Std.TreeMap.getElem?_erase, different] using filed
  | @discarded frame =>
    have different := other frame rfl
    simpa [freeStream_eq, List.mem_erase_of_ne (Ne.symm different)] using filed
  | rejected => exact filed
  | @beatAnswered frame _ heartbeat outstanding same =>
    have different := other frame rfl
    cases owner : exchange.owner with
    | none => simp [owner, outstanding, same, different] at filed
    | some request => simpa [owner, freeStream_eq] using filed
  | beatSent idle =>
    cases owner : exchange.owner with
    | none => simp [owner, idle] at filed
    | some request => simpa [owner] using filed
  | beatFailed => exact filed
  | beatStarved => exact filed

end Exchange

namespace Channel

open Exchange

variable {channel : Channel} {entered : Nat}

theorem Handled.written {event : Event} {reaction : Reaction}
    (handled : Handled channel event reaction) :
    reaction.frames = [] ∨ ∃ frame ids, reaction.frames = [frame] ∧
      channel.ids.acquire? = some (frame.stream, ids) ∧
      Filed ⟨channel.speaker event, frame⟩ reaction.channel := by
  cases handled with
  | @sent request opcode body _ stream ids _ ending first acquired written unwritten =>
    cases ending with
    | none =>
      right
      refine ⟨_, ids, written rfl, acquired, ?_⟩
      simp [Filed, speaker, first, queuedRequests, Exchange.stream, Frame.request]
    | some => exact .inl (unwritten rfl)
  | @beatSent stream ids deadline idle room acquired =>
    exact .inr ⟨_, ids, rfl, acquired, rfl⟩
  | _ => exact .inl rfl

theorem Handled.accepted {event : Event} {reaction : Reaction}
    (handled : Handled channel event reaction)
    (answer : ∀ frame, event = .frame frame →
      ∃ exchange : Exchange, exchange.Filed channel ∧ exchange.stream = frame.stream) :
    reaction.channel.rejected = channel.rejected := by
  cases handled with
  | @rejected frame _ other unknown strange =>
    obtain ⟨exchange, filed, same⟩ := answer frame rfl
    unfold Filed at filed
    split at filed
    next =>
      cases outstanding : channel.heartbeat with
      | none => simp [outstanding] at filed
      | some heartbeat =>
        simp only [outstanding, Option.map_some, Option.some.injEq] at filed
        exact absurd (filed.trans same) (other heartbeat outstanding)
    next =>
      rcases filed with found | orphan
      · rw [same, unknown] at found
        cases found
      · exact absurd (same ▸ orphan) strange
  | answered => simp only [freeStream_eq]
  | discarded => simp only [freeStream_eq]
  | beatAnswered => simp only [freeStream_eq]
  | _ => rfl

theorem Handled.reply_ok {event : Event} {reaction : Reaction}
    (handled : Handled channel event reaction) {request : RequestId} {frame : Frame}
    (told : (request, .ok frame) ∈ reaction.replies) :
    event = .frame frame ∧ channel.pending[frame.stream]? = some request := by
  cases handled with
  | answered _ found =>
    obtain ⟨rfl, rfl⟩ : request = _ ∧ frame = _ := by simpa using told
    exact ⟨rfl, found⟩
  | refused => simp at told
  | starved => simp at told
  | _ => cases told

theorem handle_pushed (channel : Channel) (now : Nat) (fault : Option DriverError) {frame : Frame}
    (response : frame.isResponse = true) (pushed : frame.stream = eventStream) :
    channel.handle now fault (.frame frame) = { channel := { channel with lastRead := now } } := by
  simp [handle, onFrame, response, pushed]

end Channel

theorem Exchange.Filed.owner_pending {exchange : Exchange} {channel : Channel} {entered : Nat}
    (filed : exchange.Filed channel) (consistent : channel.Consistent entered)
    {request : RequestId} (found : channel.pending[exchange.stream]? = some request) :
    exchange.owner = some request := by
  -- A pending stream is neither an orphan nor the heartbeat's, as it has one owner only.
  have single := consistent.owners_le_one exchange.stream
  have present := Channel.Consistent.mem_pending found
  unfold Filed at filed
  unfold Channel.owners at single
  split at filed
  next =>
    simp only [present, filed, if_true] at single
    omega
  next owner =>
    rcases filed with same | orphan
    · rw [owner, ← found, same]
    · have orphaned := List.count_pos_iff.2 orphan
      simp only [present, if_true] at single
      omega

namespace Channel

theorem Handled.count_begun {channel : Channel} {event : Event} {reaction : Reaction}
    (handled : Handled channel event reaction) (request : RequestId) :
    (queuedRequests reaction.channel.commands).count request
        + ((channel.begun event reaction).filterMap (·.owner)).count request ≤
      (queuedRequests channel.commands).count request := by
  cases handled with
  | quiet kept => simp [begun, kept]
  | refused first => simp [begun, release, first, List.count_cons]
  | starved first => simp [begun, release, first, List.count_cons]
  | @sent sent opcode body rest stream ids frames ending first _ written unwritten =>
    cases ending with
    | none =>
      rw [written rfl]
      simp [begun, speaker, first, queuedRequests, List.count_cons]
    | some => simp [begun, unwritten rfl, first, List.count_cons]
  | orphaned first => simp [begun, first]
  | answered => simp [begun, freeStream_eq]
  | discarded => simp [begun, freeStream_eq]
  | rejected => simp [begun]
  | beatAnswered => simp [begun, freeStream_eq]
  | beatSent => simp [begun, speaker]
  | beatFailed => simp [begun]
  | beatStarved => simp [begun]

theorem Handled.begun_question {channel : Channel} {event : Event} {reaction : Reaction}
    (handled : Handled channel event reaction) {exchange : Exchange}
    (member : exchange ∈ channel.begun event reaction) {request : RequestId}
    (owner : exchange.owner = some request) :
    ∃ opcode body, .send request opcode body ∈ channel.commands ∧
      exchange.question = .request exchange.stream opcode body := by
  cases handled with
  | @sent sent opcode body rest stream ids frames ending first _ written unwritten =>
    cases ending with
    | none =>
      obtain rfl : exchange = ⟨some sent, .request stream opcode body⟩ := by
        simpa [begun, written rfl, speaker, first, queuedRequests] using member
      obtain rfl : sent = request := Option.some.inj owner
      exact ⟨opcode, body, by simp [first], rfl⟩
    | some => simp [begun, unwritten rfl] at member
  | beatSent =>
    obtain rfl : exchange = _ := List.mem_singleton.1 member
    cases owner
  | _ => cases member

section Reacting

variable {channel : Channel} (isOpen : channel.isClosed = false) (now : Nat)
  (fault : Option DriverError) (event : Event)

include isOpen

theorem react_frames :
    (channel.react now fault event).frames = (channel.handle now fault event).frames := by
  rcases react_cases isOpen now fault event with same | ⟨reason, same⟩ <;> rw [same]

theorem react_count_begun (request : RequestId) :
    (queuedRequests (channel.react now fault event).channel.commands).count request
        + ((channel.begun event (channel.react now fault event)).filterMap (·.owner)).count
          request ≤
      (queuedRequests channel.commands).count request := by
  have handled := (handle_handled channel now fault event).count_begun request
  rw [begun, react_frames isOpen, ← begun]
  rcases react_cases isOpen now fault event with same | ⟨reason, same⟩
  · rwa [same]
  · have nobody : queuedRequests (channel.react now fault event).channel.commands = [] := by
      rw [same]
      rfl
    rw [nobody, List.count_nil]
    omega

theorem react_reply_ok {request : RequestId} {frame : Frame}
    (told : (request, .ok frame) ∈ (channel.react now fault event).replies) :
    event = .frame frame ∧ channel.pending[frame.stream]? = some request := by
  refine (handle_handled channel now fault event).reply_ok ?_
  rcases react_cases isOpen now fault event with same | ⟨reason, same⟩
  · rwa [same] at told
  · rw [same, shutdown_replies] at told
    simpa using told

end Reacting

end Channel

theorem Channel.react_filed {channel : Channel} {entered : Nat}
    (isOpen : channel.isClosed = false) (consistent : channel.Consistent entered) (now : Nat)
    (fault : Option DriverError) (event : Event) {exchanges : List Exchange}
    (distinct : (exchanges.map Exchange.stream).Nodup)
    (filed : ∀ exchange ∈ exchanges, exchange.Filed channel)
    (other : ∀ frame, event = .frame frame →
      ∀ exchange ∈ exchanges, frame.stream ≠ exchange.stream) :
    ((channel.begun event (channel.react now fault event) ++ exchanges).map
        Exchange.stream).Nodup ∧
      ((channel.react now fault event).channel.isClosed = false →
        ∀ exchange ∈ channel.begun event (channel.react now fault event) ++ exchanges,
          exchange.Filed (channel.react now fault event).channel) := by
  have handled := handle_handled channel now fault event
  have frames := react_frames isOpen now fault event
  have kept (goesOn : (channel.react now fault event).channel.isClosed = false)
      {exchange : Exchange} (member : exchange ∈ exchanges) :
      exchange.Filed (channel.react now fault event).channel := by
    rw [(react_open goesOn).2.1]
    exact (filed exchange member).handled consistent handled fun frame same =>
      other frame same exchange member
  rw [begun, frames]
  -- An event writes one frame at most, on a stream that was free before.
  rcases handled.written with nothing | ⟨frame, ids, one, acquired, expected⟩
  · rw [nothing]
    exact ⟨distinct, fun goesOn exchange member => kept goesOn member⟩
  · rw [one]
    constructor
    · refine List.nodup_cons.2 ⟨fun member => ?_, distinct⟩
      obtain ⟨exchange, member, same⟩ := List.mem_map.1 member
      exact (filed exchange member).ne_acquired consistent acquired same
    · intro goesOn exchange member
      rcases List.mem_cons.1 member with rfl | member
      · rw [(react_open goesOn).2.1]
        exact expected
      · exact kept goesOn member

theorem Channel.react_accepted {channel : Channel} (isOpen : channel.isClosed = false) (now : Nat)
    (fault : Option DriverError) (event : Event)
    (answer : ∀ frame, event = .frame frame →
      (∃ exchange : Exchange, exchange.Filed channel ∧ exchange.stream = frame.stream) ∨
        frame.isResponse = true ∧ frame.stream = eventStream) :
    (channel.react now fault event).channel.rejected = channel.rejected := by
  have handled : (channel.handle now fault event).channel.rejected = channel.rejected := by
    by_cases pushed : ∃ frame, event = .frame frame ∧ frame.isResponse = true ∧
        frame.stream = eventStream
    · obtain ⟨frame, rfl, response, same⟩ := pushed
      rw [handle_pushed channel now fault response same]
    · refine (handle_handled channel now fault event).accepted fun frame same => ?_
      exact (answer frame same).resolve_right fun found => pushed ⟨frame, same, found⟩
  rcases react_cases isOpen now fault event with same | ⟨reason, same⟩
  · rw [same, handled]
  · obtain ⟨ids, inFlight, ended⟩ := shutdown_eq (channel.handle now fault event).channel reason
    rw [same, ended, ← handled]

/-! ### The server and the wire -/

/-- What the server sends: the answer to an exchange, or a frame of its own accord. -/
structure Letter where
  answers : Option Exchange
  frame : Frame

/-- `answers` are all that the server has given, and `delivered` what came of the letters. -/
structure Conversation where
  history : History
  outbound : List Exchange := []
  unanswered : List Exchange := []
  inbound : List Letter := []
  answers : List (Exchange × Frame) := []
  delivered : List (RequestId × Letter) := []

namespace Conversation

open Channel

/-- What happens next. Users act and events happen in any order; the server receives the frame that
was written first, answers any that it has received, or sends a frame of its own accord; and the
letter that was sent first arrives. -/
inductive Move where
  | user (action : History.Action)
  | receive
  | answer (index : Nat) (frame : Frame)
  | push (frame : Frame)
  | arrive (now : Nat) (fault : Option DriverError)

def opened (limits : ChannelLimits) (now : Nat) : Conversation where
  history := .opened limits now

def reaction (conversation : Conversation) (now : Nat) (fault : Option DriverError)
    (event : Event) : Reaction :=
  conversation.history.channel.react now fault event

def happen (conversation : Conversation) (now : Nat) (fault : Option DriverError)
    (event : Event) : Conversation :=
  { conversation with
    history := conversation.history.act (.event now fault event)
    outbound := conversation.outbound ++
      conversation.history.channel.begun event (conversation.reaction now fault event) }

def receivers (letter : Letter) (reaction : Reaction) : List (RequestId × Letter) :=
  reaction.replies.filterMap fun
    | (request, .ok _) => some (request, letter)
    | (_, .error _) => none

def act (conversation : Conversation) : Move → Conversation
  -- Frames come from the server only.
  | .user (.event _ _ (.frame _)) => conversation
  | .user (.event now fault event) => conversation.happen now fault event
  | .user action => { conversation with history := conversation.history.act action }
  | .receive =>
      match conversation.outbound with
      | [] => conversation
      | exchange :: rest =>
          { conversation with
            outbound := rest
            unanswered := conversation.unanswered ++ [exchange] }
  | .answer index frame =>
      match conversation.unanswered[index]? with
      | none => conversation
      | some exchange =>
          if frame.isResponse ∧ frame.stream = exchange.stream then
            { conversation with
              unanswered := conversation.unanswered.eraseIdx index
              inbound := conversation.inbound ++ [⟨some exchange, frame⟩]
              answers := conversation.answers ++ [(exchange, frame)] }
          else conversation
  | .push frame =>
      if frame.isResponse ∧ frame.stream = eventStream then
        { conversation with inbound := conversation.inbound ++ [⟨none, frame⟩] }
      else conversation
  | .arrive now fault =>
      match conversation.inbound with
      | [] => conversation
      | letter :: rest =>
          let reaction := conversation.reaction now fault (.frame letter.frame)
          { conversation.happen now fault (.frame letter.frame) with
            inbound := rest
            delivered := conversation.delivered ++ receivers letter reaction }

def run (conversation : Conversation) (moves : List Move) : Conversation :=
  moves.foldl act conversation

def exchanges (conversation : Conversation) : List Exchange :=
  conversation.outbound ++ conversation.unanswered ++ conversation.inbound.filterMap (·.answers)

def written (conversation : Conversation) : List Exchange :=
  conversation.outbound ++ conversation.unanswered ++ conversation.answers.map (·.1)

def Genuine (conversation : Conversation) (letter : Letter) : Prop :=
  letter.frame.isResponse = true ∧
    match letter.answers with
    | none => letter.frame.stream = eventStream
    | some exchange =>
        letter.frame.stream = exchange.stream ∧ (exchange, letter.frame) ∈ conversation.answers

theorem Genuine.later {conversation later : Conversation} {letter : Letter}
    (genuine : conversation.Genuine letter) (more : conversation.answers ⊆ later.answers) :
    later.Genuine letter := by
  unfold Genuine at genuine ⊢
  cases answered : letter.answers with
  | none => simpa only [answered] using genuine
  | some exchange =>
    rw [answered] at genuine
    exact ⟨genuine.1, genuine.2.1, more genuine.2.2⟩

structure Orderly (conversation : Conversation) : Prop where
  distinct : (conversation.exchanges.map Exchange.stream).Nodup
  filed : conversation.history.channel.isClosed = false →
    ∀ exchange ∈ conversation.exchanges, exchange.Filed conversation.history.channel
  accepted : conversation.history.channel.rejected = 0
  genuine : ∀ letter ∈ conversation.inbound, conversation.Genuine letter

theorem opened_orderly (limits : ChannelLimits) (start : Nat) : (opened limits start).Orderly where
  distinct := List.nodup_nil
  filed := nofun
  accepted := rfl
  genuine := fun _ member => absurd member List.not_mem_nil

theorem happen_closed {conversation : Conversation}
    (closed : conversation.history.channel.isClosed = true) (now : Nat)
    (fault : Option DriverError) (event : Event) :
    conversation.happen now fault event = conversation := by
  simp [happen, History.act, reaction, react, closed, begun]

theorem received_perm (exchange : Exchange) (rest unanswered others : List Exchange) :
    (rest ++ (unanswered ++ [exchange]) ++ others).Perm
      (exchange :: rest ++ unanswered ++ others) := by
  simp only [List.append_assoc, List.cons_append, List.nil_append]
  rw [← List.append_assoc, ← List.append_assoc]
  exact List.perm_middle

theorem answered_perm (outbound others : List Exchange) {unanswered : List Exchange} {index : Nat}
    (inside : index < unanswered.length) :
    (outbound ++ unanswered.eraseIdx index ++ (others ++ [unanswered[index]])).Perm
      (outbound ++ unanswered ++ others) := by
  have taken := List.getElem_cons_eraseIdx_perm inside
  have moved : (unanswered.eraseIdx index ++ (others ++ [unanswered[index]])).Perm
      (unanswered ++ others) := by
    rw [← List.append_assoc]
    exact List.perm_append_comm.trans (taken.append_right _)
  simp only [List.append_assoc]
  exact moved.append_left _

theorem exchanges_unread {conversation : Conversation} {rest : List Letter}
    (unread : rest <:+ conversation.inbound) :
    { conversation with inbound := rest }.exchanges.Sublist conversation.exchanges :=
  List.Sublist.append (List.Sublist.refl _) (unread.sublist.filterMap _)

namespace Orderly

variable {conversation : Conversation}

theorem happened (orderly : conversation.Orderly) (reached : conversation.history.Reached)
    (now : Nat) (fault : Option DriverError) (event : Event) {rest : List Letter}
    (delivered : List (RequestId × Letter)) (unread : rest <:+ conversation.inbound)
    (other : ∀ frame, event = .frame frame →
      ∀ exchange ∈ { conversation with inbound := rest }.exchanges,
        conversation.history.channel.isClosed = false → frame.stream ≠ exchange.stream)
    (answer : ∀ frame, event = .frame frame → conversation.history.channel.isClosed = false →
      (∃ exchange : Exchange, exchange.Filed conversation.history.channel ∧
        exchange.stream = frame.stream) ∨
      frame.isResponse = true ∧ frame.stream = eventStream) :
    Orderly { conversation.happen now fault event with inbound := rest, delivered } := by
  have fewer := exchanges_unread unread
  have distinct := orderly.distinct.sublist (fewer.map Exchange.stream)
  cases isOpen : conversation.history.channel.isClosed with
  | true =>
    rw [happen_closed isOpen]
    exact { orderly with
      distinct
      filed := fun goesOn => absurd (isOpen.symm.trans goesOn) (by decide)
      genuine := fun letter member => orderly.genuine letter (unread.subset member) }
  | false =>
    have consistent := reached.consistent isOpen
    have filed (exchange : Exchange)
        (member : exchange ∈ { conversation with inbound := rest }.exchanges) :
        exchange.Filed conversation.history.channel :=
      orderly.filed isOpen exchange (fewer.subset member)
    obtain ⟨ownStreams, expected⟩ := react_filed isOpen consistent now fault event distinct filed
      fun frame same exchange member => other frame same exchange member isOpen
    -- What is written goes behind the other outbound frames; the order does not matter here.
    have rearranged : List.Perm
        (exchanges { conversation.happen now fault event with inbound := rest, delivered })
        (conversation.history.channel.begun event (conversation.reaction now fault event)
          ++ { conversation with inbound := rest }.exchanges) := by
      simp only [exchanges, happen, List.append_assoc]
      exact List.perm_append_comm_assoc _ _ _
    exact {
      distinct := (rearranged.map Exchange.stream).nodup_iff.2 ownStreams
      filed := fun goesOn exchange member =>
        expected goesOn exchange (rearranged.mem_iff.1 member)
      accepted := by
        have same := react_accepted isOpen now fault event fun frame same =>
          answer frame same isOpen
        exact same.trans orderly.accepted
      genuine := fun letter member => orderly.genuine letter (unread.subset member) }

theorem rearranged (orderly : conversation.Orderly) {later : Conversation}
    (history : later.history = conversation.history)
    (same : later.exchanges.Perm conversation.exchanges)
    (genuine : ∀ letter ∈ later.inbound, later.Genuine letter) : later.Orderly where
  distinct := (same.map Exchange.stream).nodup_iff.2 orderly.distinct
  filed := by
    rw [history]
    exact fun isOpen exchange member => orderly.filed isOpen exchange (same.mem_iff.1 member)
  accepted := history ▸ orderly.accepted
  genuine

theorem used (orderly : conversation.Orderly) (action : History.Action)
    (noEvent : ∀ now fault event, action ≠ .event now fault event) :
    { conversation with history := conversation.history.act action }.Orderly := by
  rcases History.act_cases conversation.history action with
    ⟨⟨_, _, _, _, same⟩, _⟩ | ⟨_, now, fault, event, happens⟩
  · exact {
      distinct := orderly.distinct
      filed := by
        simp only [same]
        exact orderly.filed
      accepted := by
        simp only [same]
        exact orderly.accepted
      genuine := orderly.genuine }
  · exact absurd happens (noEvent now fault event)

theorem answered (orderly : conversation.Orderly) {index : Nat} {exchange : Exchange}
    (found : conversation.unanswered[index]? = some exchange) {frame : Frame}
    (response : frame.isResponse = true) (same : frame.stream = exchange.stream) :
    Orderly { conversation with
      unanswered := conversation.unanswered.eraseIdx index
      inbound := conversation.inbound ++ [⟨some exchange, frame⟩]
      answers := conversation.answers ++ [(exchange, frame)] } := by
  obtain ⟨inside, rfl⟩ := List.getElem?_eq_some_iff.1 found
  refine orderly.rearranged rfl ?_ ?_
  · simp only [exchanges, List.filterMap_append]
    exact answered_perm conversation.outbound _ inside
  · intro letter member
    rcases List.mem_append.1 member with old | new
    · exact (orderly.genuine letter old).later (List.subset_append_left _ _)
    · rw [List.mem_singleton.1 new]
      exact ⟨response, same, by simp⟩

theorem arrived (orderly : conversation.Orderly) (reached : conversation.history.Reached)
    {letter : Letter} {rest : List Letter} (first : conversation.inbound = letter :: rest)
    (now : Nat) (fault : Option DriverError) (delivered : List (RequestId × Letter)) :
    Orderly { conversation.happen now fault (.frame letter.frame) with
      inbound := rest, delivered } := by
  have genuine := orderly.genuine letter (by simp [first])
  have unread : rest <:+ conversation.inbound := first ▸ List.suffix_cons letter rest
  have fewer := exchanges_unread unread
  refine orderly.happened reached now fault _ delivered unread ?_ ?_
  · rintro _ ⟨⟩ exchange member isOpen
    have consistent := reached.consistent isOpen
    have filed := orderly.filed isOpen exchange (fewer.subset member)
    cases answered : letter.answers with
    | none =>
      -- No exchange uses the event stream, whose id is negative.
      rw [Genuine, answered] at genuine
      rw [genuine.2]
      exact (consistent.ne_eventStream filed.owned).symm
    | some question =>
      -- The exchange that is answered is taken off the wire, and the others have other streams.
      rw [Genuine, answered] at genuine
      rw [genuine.2.1]
      have apart : List.Perm conversation.exchanges
          (question :: { conversation with inbound := rest }.exchanges) := by
        simp only [exchanges, first, List.filterMap_cons, answered]
        exact List.perm_middle
      have distinct := (apart.map Exchange.stream).nodup_iff.1 orderly.distinct
      intro same
      exact (List.nodup_cons.1 distinct).1 (List.mem_map.2 ⟨exchange, member, same.symm⟩)
  · rintro _ ⟨⟩ isOpen
    cases answered : letter.answers with
    | none =>
      rw [Genuine, answered] at genuine
      exact .inr genuine
    | some question =>
      rw [Genuine, answered] at genuine
      have member : question ∈ conversation.exchanges := by
        simp [exchanges, first, answered]
      exact .inl ⟨question, orderly.filed isOpen question member, genuine.2.1.symm⟩

end Orderly

theorem act_user_cases (conversation : Conversation) (action : History.Action) :
    conversation.act (.user action) = conversation ∨
      (∃ now fault event, (∀ frame, event ≠ .frame frame) ∧
        conversation.act (.user action) = conversation.happen now fault event) ∨
      (∀ now fault event, action ≠ .event now fault event) ∧
        conversation.act (.user action) =
          { conversation with history := conversation.history.act action } := by
  cases action with
  | event now fault event =>
    cases event with
    | frame => exact .inl rfl
    | command => exact .inr (.inl ⟨now, fault, .command, nofun, rfl⟩)
    | lost reason => exact .inr (.inl ⟨now, fault, .lost reason, nofun, rfl⟩)
    | tick => exact .inr (.inl ⟨now, fault, .tick, nofun, rfl⟩)
    | abandonedByAll => exact .inr (.inl ⟨now, fault, .abandonedByAll, nofun, rfl⟩)
  | send => exact .inr (.inr ⟨by simp, rfl⟩)
  | enter => exact .inr (.inr ⟨by simp, rfl⟩)
  | submit => exact .inr (.inr ⟨by simp, rfl⟩)
  | abandon => exact .inr (.inr ⟨by simp, rfl⟩)
  | close => exact .inr (.inr ⟨by simp, rfl⟩)
  | forceClose => exact .inr (.inr ⟨by simp, rfl⟩)

theorem act_orderly (conversation : Conversation) (move : Move)
    (reached : conversation.history.Reached) (orderly : conversation.Orderly) :
    (conversation.act move).Orderly := by
  cases move with
  | user action =>
    rcases act_user_cases conversation action with
      same | ⟨now, fault, event, noFrame, same⟩ | ⟨noEvent, same⟩
    · rwa [same]
    · rw [same]
      exact orderly.happened reached now fault event conversation.delivered List.suffix_rfl
        (fun frame same => absurd same (noFrame frame))
        (fun frame same => absurd same (noFrame frame))
    · rw [same]
      exact orderly.used action noEvent
  | receive =>
    simp only [act]
    split
    next => exact orderly
    next exchange rest first =>
      -- What the server receives is still unanswered: the same exchanges in another order.
      refine orderly.rearranged rfl ?_ orderly.genuine
      simp only [exchanges, first]
      exact received_perm exchange rest _ _
  | answer index frame =>
    simp only [act]
    split
    next => exact orderly
    next exchange found =>
      split
      next permitted => exact orderly.answered found permitted.1 permitted.2
      next => exact orderly
  | push frame =>
    simp only [act]
    split
    next permitted =>
      refine orderly.rearranged rfl ?_ ?_
      · simp [exchanges]
      · intro letter member
        rcases List.mem_append.1 member with old | new
        · exact orderly.genuine letter old
        · rw [List.mem_singleton.1 new]
          exact permitted
    next => exact orderly
  | arrive now fault =>
    simp only [act]
    split
    next => exact orderly
    next letter rest first => exact orderly.arrived reached first now fault _

end Conversation

end ClusterDriver
