import ClusterDriver.Proofs.Channel.Line
import ClusterDriver.Proofs.Request.Course

set_option autoImplicit false

namespace ClusterDriver

/-- The connections around a request, the handles whose owners still wait, and those that the
request was given for its attempts, in order. -/
structure Wires where
  line : ChannelId → Line
  waiting : List Handle := []
  sent : List Handle := []

namespace Wires

def lineOf (wires : Wires) (handle : Handle) : Line := wires.line handle.channel

def act (wires : Wires) (channel : ChannelId) (action : History.Action) : Wires :=
  { wires with line := Function.update wires.line channel ((wires.line channel).act action) }

def drop (wires : Wires) (handle : Handle) : Wires :=
  { wires with waiting := wires.waiting.filter fun other => other ≠ handle }

def afterSend (wires : Wires) (opcode : Opcode) (body : ByteArray) :
    Option (Except String Handle) → Wires
  | some (.ok handle) =>
      { wires.act handle.channel (.send opcode body) with
        waiting := wires.waiting ++ [handle]
        sent := wires.sent ++ [handle] }
  | _ => wires

def afterReply (wires : Wires) (handle : Handle) : Option Reply → Wires
  | some _ => wires.drop handle
  | none => wires

def abandon (wires : Wires) (handle : Handle) : Wires :=
  if handle ∈ wires.waiting then
    (wires.drop handle).act handle.channel (.abandon handle.request)
  else wires

/-- A request that was sent is settled: its handle has received the result, or there is a command to
abandon it. -/
def Settles (wires : Wires) (handle : Handle) : Prop :=
  (wires.lineOf handle).Settles handle.request

def Issued (wires : Wires) (handle : Handle) : Prop :=
  handle.request ∈ (wires.lineOf handle).history.issued

/-- The connections that a request has used go on as connections do, it sends nothing, and the
handles in question stay with their owners. -/
structure Onward (mine : Handle → Prop) (before after : Wires) : Prop where
  sent : after.sent = before.sent
  lines : ∀ handle ∈ before.sent, (before.lineOf handle).Before (after.lineOf handle)
  waiting : ∀ handle ∈ before.waiting, mine handle → handle ∈ after.waiting

variable {wires before after : Wires} {mine : Handle → Prop} {handle : Handle}

theorem act_lines (wires : Wires) (channel : ChannelId) (action : History.Action)
    (other : ChannelId) : (wires.line other).Before ((wires.act channel action).line other) := by
  by_cases same : other = channel
  · subst same
    simp only [act, Function.update_self]
    exact .act _ _
  · simp only [act, Function.update_of_ne same]
    exact .refl _

theorem issued_afterSend {opcode : Opcode} {body : ByteArray}
    (accepted : ∃ channel, (wires.lineOf handle).history.channel.send opcode body =
      .ok (handle.request, channel)) :
    (wires.act handle.channel (.send opcode body)).Issued handle := by
  obtain ⟨channel, accepted⟩ := accepted
  have queued : handle.request ∈
      ((wires.lineOf handle).history.act (.send opcode body)).issued := by
    simp [History.act, accepted, History.issued_issue]
  rw [← Line.history_act] at queued
  simpa only [Issued, lineOf, act, Function.update_self] using queued

namespace Onward

theorem refl (mine : Handle → Prop) (wires : Wires) : Onward mine wires wires :=
  ⟨rfl, fun _ _ => .refl _, fun _ waits _ => waits⟩

theorem trans {last : Wires} (first : Onward mine before after) (second : Onward mine after last) :
    Onward mine before last where
  sent := second.sent.trans first.sent
  lines handle sent :=
    (first.lines handle sent).trans (second.lines handle (first.sent.symm ▸ sent))
  waiting handle waits own := second.waiting handle (first.waiting handle waits own) own

theorem weaken {fewer : Handle → Prop} (onward : Onward mine before after)
    (own : ∀ handle, fewer handle → mine handle) : Onward fewer before after :=
  { onward with waiting := fun handle waits few => onward.waiting handle waits (own handle few) }

theorem settles (onward : Onward mine before after) (sent : handle ∈ before.sent)
    (settles : before.Settles handle) : after.Settles handle :=
  (onward.lines handle sent).settles settles

theorem issued (onward : Onward mine before after) (sent : handle ∈ before.sent)
    (issued : before.Issued handle) : after.Issued handle :=
  (onward.lines handle sent).issued issued

theorem drop (wires : Wires) (handle : Handle) : Onward (· ≠ handle) wires (wires.drop handle) where
  sent := rfl
  lines _ _ := .refl _
  waiting other waits different := List.mem_filter.2 ⟨waits, by simpa using different⟩

theorem act (mine : Handle → Prop) (wires : Wires) (channel : ChannelId)
    (action : History.Action) : Onward mine wires (wires.act channel action) where
  sent := rfl
  lines _ _ := act_lines wires channel action _
  waiting _ waits _ := waits

theorem abandon (wires : Wires) (handle : Handle) :
    Onward (· ≠ handle) wires (wires.abandon handle) := by
  unfold Wires.abandon
  split
  next =>
    have dropped := drop wires handle
    exact { dropped with
      lines := fun _ _ => act_lines (wires.drop handle) handle.channel (.abandon handle.request) _ }
  next => exact .refl _ wires

end Onward

theorem abandon_settles (issued : wires.Issued handle) (waits : handle ∈ wires.waiting) :
    (wires.abandon handle).Settles handle := by
  have settles := Line.settles_act issued
  simpa only [Settles, lineOf, abandon, waits, if_true, act, drop, Function.update_self]
    using settles

theorem abandonAll_settles {handles : List Handle} (wires : Wires)
    (own : ∀ handle ∈ handles, handle ∈ wires.sent ∧ wires.Issued handle)
    (ready : ∀ handle ∈ handles, handle ∈ wires.waiting ∨ wires.Settles handle) :
    Onward (· ∉ handles) wires (handles.foldl abandon wires) ∧
      ∀ handle ∈ handles, (handles.foldl abandon wires).Settles handle := by
  induction handles generalizing wires with
  | nil => exact ⟨.refl _ _, nofun⟩
  | cons first rest ih =>
    obtain ⟨⟨sent, issued⟩, others⟩ := List.forall_mem_cons.1 own
    obtain ⟨waits, outstanding⟩ := List.forall_mem_cons.1 ready
    have gives := Onward.abandon wires first
    have settled : (wires.abandon first).Settles first :=
      waits.elim (abandon_settles issued) (gives.settles sent)
    have mine : ∀ handle ∈ rest,
        handle ∈ (wires.abandon first).sent ∧ (wires.abandon first).Issued handle := by
      intro handle member
      obtain ⟨sent, issued⟩ := others handle member
      exact ⟨gives.sent.symm ▸ sent, gives.issued sent issued⟩
    have still : ∀ handle ∈ rest, handle ∈ (wires.abandon first).waiting ∨
        (wires.abandon first).Settles handle := by
      intro handle member
      by_cases same : handle = first
      · exact .inr (same ▸ settled)
      · have before := outstanding handle member
        exact before.imp (gives.waiting handle · same) (gives.settles (others handle member).1)
    obtain ⟨onward, settles⟩ := ih (wires.abandon first) mine still
    refine ⟨?_, List.forall_mem_cons.2 ⟨onward.settles (gives.sent.symm ▸ sent) settled, settles⟩⟩
    refine (gives.weaken ?_).trans (onward.weaken ?_)
    · exact fun handle absent same => absent (same ▸ List.mem_cons_self)
    · exact fun handle absent member => absent (List.mem_cons_of_mem _ member)

end Wires

def Stage.handle? : Stage → Option Handle
  | .awaiting _ _ _ handle => some handle
  | _ => none

def Execution.handle? (execution : Execution) : Option Handle := execution.stage.handle?

theorem Run.mem_handles {run : Run} {handle : Handle} :
    handle ∈ run.handles ↔
      ∃ execution ∈ run.executions, execution.handle? = some handle := by
  simp only [handles, List.mem_filterMap, List.mem_reverse]
  rfl

structure Custody (executions : List Execution) (attempts : Nat) (wires : Wires) : Prop where
  held : ∀ execution ∈ executions, ∀ handle, execution.handle? = some handle →
    handle ∈ wires.waiting ∧ handle ∈ wires.sent
  apart : ∀ first ∈ executions, ∀ second ∈ executions, ∀ handle,
    first.handle? = some handle → second.handle? = some handle → first.number = second.number
  issued : ∀ handle ∈ wires.sent, wires.Issued handle
  settled : ∀ handle ∈ wires.sent,
    (∃ execution ∈ executions, execution.handle? = some handle) ∨ wires.Settles handle
  counted : wires.sent.length = attempts

structure Without (number : Nat) (executions few : List Execution) : Prop where
  others : ∀ execution ∈ executions, execution.number ≠ number → execution ∈ few
  old : ∀ execution ∈ few, execution.handle? ≠ none →
    execution ∈ executions ∧ execution.number ≠ number

theorem without_filter (number : Nat) (executions : List Execution) :
    Without number executions (executions.filter fun other => other.number ≠ number) where
  others execution member different := List.mem_filter.2 ⟨member, by simpa using different⟩
  old execution member _ := by simpa using List.mem_filter.1 member

theorem without_replaced {execution next : Execution} (executions : List Execution)
    (same : next.number = execution.number) (idle : next.handle? = none) :
    Without execution.number executions (replaced next executions) where
  others other member different :=
    List.mem_map.2 ⟨other, member, if_neg (same ▸ different)⟩
  old other member waits := by
    rcases mem_replaced member with rfl | ⟨old, different⟩
    · exact absurd idle waits
    · exact ⟨old, same ▸ different⟩

namespace Custody

variable {executions few : List Execution} {attempts : Nat} {wires later : Wires}
  {execution next : Execution}

theorem empty {wires : Wires} (nothing : wires.sent = []) : Custody [] 0 wires where
  held := by simp
  apart := by simp
  issued := by simp [nothing]
  settled := by simp [nothing]
  counted := by simp [nothing]

theorem onward (custody : Custody executions attempts wires)
    (onward : Wires.Onward
      (fun handle => ∃ execution ∈ executions, execution.handle? = some handle) wires later) :
    Custody executions attempts later where
  held execution running handle awaits := by
    obtain ⟨waits, sent⟩ := custody.held execution running handle awaits
    exact ⟨onward.waiting handle waits ⟨execution, running, awaits⟩, onward.sent ▸ sent⟩
  apart := custody.apart
  issued handle sent := by
    rw [onward.sent] at sent
    exact onward.issued sent (custody.issued handle sent)
  settled handle sent := by
    rw [onward.sent] at sent
    exact (custody.settled handle sent).imp_right (onward.settles sent)
  counted := onward.sent ▸ custody.counted

theorem drops (custody : Custody executions attempts wires)
    (unique : (executions.map (·.number)).Nodup) (running : execution ∈ executions)
    (without : Without execution.number executions few)
    (onward : Wires.Onward (execution.handle? ≠ some ·) wires later)
    (settles : ∀ handle, execution.handle? = some handle → later.Settles handle) :
    Custody few attempts later where
  held other member handle awaits := by
    obtain ⟨old, different⟩ := without.old other member (by simp [awaits])
    obtain ⟨waits, sent⟩ := custody.held other old handle awaits
    refine ⟨onward.waiting handle waits fun own => ?_, onward.sent ▸ sent⟩
    exact different (custody.apart other old execution running handle awaits own)
  apart first one second two handle awaits waits := by
    obtain ⟨one, _⟩ := without.old first one (by simp [awaits])
    obtain ⟨two, _⟩ := without.old second two (by simp [waits])
    exact custody.apart first one second two handle awaits waits
  issued handle sent := by
    rw [onward.sent] at sent
    exact onward.issued sent (custody.issued handle sent)
  settled handle sent := by
    rw [onward.sent] at sent
    rcases custody.settled handle sent with ⟨other, member, awaits⟩ | settled
    · by_cases same : other.number = execution.number
      · obtain rfl := List.inj_on_of_nodup_map unique member running same
        exact .inr (settles handle awaits)
      · exact .inl ⟨other, without.others other member same, awaits⟩
    · exact .inr (onward.settles sent settled)
  counted := onward.sent ▸ custody.counted

theorem idles (custody : Custody executions attempts wires)
    (unique : (executions.map (·.number)).Nodup) (running : execution ∈ executions)
    (without : Without execution.number executions few) (idle : execution.handle? = none)
    (same : later = wires) : Custody few attempts later := by
  subst same
  exact custody.drops unique running without (.refl _ _) (by simp [idle])

theorem hears (custody : Custody executions attempts wires)
    (unique : (executions.map (·.number)).Nodup) (running : execution ∈ executions)
    (without : Without execution.number executions few) {handle : Handle}
    (awaits : execution.handle? = some handle) (onward : Wires.Onward (· ≠ handle) wires later)
    (settles : later.Settles handle) : Custody few attempts later := by
  refine custody.drops unique running without (onward.weaken ?_) ?_
  · intro other different same
    exact different (awaits.trans (congrArg some same.symm))
  · intro other same
    obtain rfl := Option.some.inj (awaits.symm.trans same)
    exact settles

theorem starts (custody : Custody executions attempts wires) (idle : next.handle? = none) :
    Custody (executions ++ [next]) attempts wires where
  held := by
    refine List.forall_mem_append.2 ⟨custody.held, List.forall_mem_singleton.2 ?_⟩
    intro handle awaits
    cases idle.symm.trans awaits
  apart := by
    intro first one second two handle awaits waits
    rcases List.mem_append.1 one with one | new
    · rcases List.mem_append.1 two with two | new
      · exact custody.apart first one second two handle awaits waits
      · obtain rfl := List.mem_singleton.1 new
        cases idle.symm.trans waits
    · obtain rfl := List.mem_singleton.1 new
      cases idle.symm.trans awaits
  issued := custody.issued
  settled handle sent := by
    refine (custody.settled handle sent).imp_left ?_
    rintro ⟨execution, running, awaits⟩
    exact ⟨execution, List.mem_append_left _ running, awaits⟩
  counted := custody.counted

theorem fresh (custody : Custody executions attempts wires) {handle : Handle} {opcode : Opcode}
    {body : ByteArray} {channel : Channel}
    (accepted : (wires.lineOf handle).history.channel.send opcode body =
      .ok (handle.request, channel)) : handle ∉ wires.sent := by
  -- A connection numbers its requests, so that the handle of a new one is new.
  intro sent
  have older := ((wires.lineOf handle).reached _).tracked.older _ (custody.issued handle sent)
  obtain ⟨_, _, number, _⟩ := Channel.send_ok accepted
  exact absurd number (Nat.ne_of_lt older)

theorem sends (custody : Custody executions attempts wires)
    (unique : (executions.map (·.number)).Nodup) (running : execution ∈ executions)
    (same : next.number = execution.number) (idle : execution.handle? = none) {handle : Handle}
    (awaits : next.handle? = some handle) {opcode : Opcode} {body : ByteArray} {channel : Channel}
    (accepted : (wires.lineOf handle).history.channel.send opcode body =
      .ok (handle.request, channel)) :
    Custody (replaced next executions) (attempts + 1)
      (wires.afterSend opcode body (some (.ok handle))) := by
  have unsent := custody.fresh accepted
  have lines := wires.act_lines handle.channel (.send opcode body)
  have issued : (wires.afterSend opcode body (some (.ok handle))).Issued handle :=
    Wires.issued_afterSend ⟨channel, accepted⟩
  exact {
    held := by
      refine forall_replaced ?_ fun other member _ handle awaits => ?_
      · intro other waits
        obtain rfl := Option.some.inj (awaits.symm.trans waits)
        exact ⟨by simp [Wires.afterSend], by simp [Wires.afterSend]⟩
      · obtain ⟨waits, sent⟩ := custody.held other member handle awaits
        exact ⟨List.mem_append_left _ waits, List.mem_append_left _ sent⟩
    apart := by
      -- The handle is new, so nobody was waiting for it.
      have others : ∀ other ∈ executions, other.handle? ≠ some handle :=
        fun other member waits => unsent (custody.held other member handle waits).2
      intro first one second two tested awaited waited
      rcases mem_replaced one with rfl | ⟨old, _⟩
      · rcases mem_replaced two with rfl | ⟨two, _⟩
        · rfl
        · exact absurd (waited.trans (awaited.symm.trans awaits)) (others second two)
      · rcases mem_replaced two with rfl | ⟨two, _⟩
        · exact absurd (awaited.trans (waited.symm.trans awaits)) (others first old)
        · exact custody.apart first old second two tested awaited waited
    issued := by
      refine List.forall_mem_append.2 ⟨fun other sent => ?_, List.forall_mem_singleton.2 issued⟩
      exact (lines other.channel).issued (custody.issued other sent)
    settled := by
      refine List.forall_mem_append.2 ⟨fun other sent => ?_, List.forall_mem_singleton.2 ?_⟩
      · refine (custody.settled other sent).imp ?_ (lines other.channel).settles
        rintro ⟨waiter, member, waits⟩
        refine ⟨waiter, List.mem_map.2 ⟨waiter, member, if_neg fun own => ?_⟩, waits⟩
        obtain rfl := List.inj_on_of_nodup_map unique member running (own.trans same)
        cases idle.symm.trans waits
      · exact .inl ⟨next, List.mem_map.2 ⟨execution, running, if_pos same.symm⟩, awaits⟩
    counted := by
      simp only [Wires.afterSend, List.length_append, List.length_singleton, custody.counted] }

theorem finishes {run : Run} (custody : Custody run.executions attempts wires) :
    Custody [] attempts (run.handles.foldl Wires.abandon wires) := by
  have held : ∀ handle ∈ run.handles, handle ∈ wires.waiting ∧ handle ∈ wires.sent := by
    intro handle member
    obtain ⟨execution, running, awaits⟩ := Run.mem_handles.1 member
    exact custody.held execution running handle awaits
  obtain ⟨onward, settles⟩ := Wires.abandonAll_settles wires
    (fun handle member => ⟨(held handle member).2, custody.issued handle (held handle member).2⟩)
    (fun handle member => .inl (held handle member).1)
  exact {
    held := by simp
    apart := by simp
    issued := by
      intro handle sent
      rw [onward.sent] at sent
      exact onward.issued sent (custody.issued handle sent)
    settled := by
      intro handle sent
      rw [onward.sent] at sent
      right
      rcases custody.settled handle sent with waits | settled
      · exact settles handle (Run.mem_handles.2 waits)
      · exact onward.settles sent settled
    counted := onward.sent ▸ custody.counted }

end Custody

end ClusterDriver
