import ClusterDriver.Channel.Handshake

set_option autoImplicit false

namespace ClusterDriver.Handshake

def promptOf? (frame : Frame) : Option AuthPrompt :=
  match frame.opcode with
  | .authenticate => some (.mechanism (Text.Utf8.lossyText frame.body))
  | .authChallenge => some (.challenge frame.body)
  | _ => none

variable (authenticator : Option Authenticator)

inductive Answers (earlier : List AuthPrompt) (frame : Frame) : AuthPrompt → ByteArray → Prop
  | token {party : Authenticator} {prompt : AuthPrompt} {token : ByteArray}
      (present : authenticator = some party) (asks : promptOf? frame = some prompt)
      (responds : party.respond earlier prompt = .ok token) (fits : token.size ≤ maxBodyLength) :
      Answers earlier frame prompt token

inductive Answered : List AuthPrompt → List Frame → List ByteArray → Prop
  | nil {earlier : List AuthPrompt} : Answered earlier [] []
  | cons {earlier : List AuthPrompt} {frame : Frame} {prompt : AuthPrompt} {token : ByteArray}
      {frames : List Frame} {tokens : List ByteArray}
      (first : Answers authenticator earlier frame prompt token)
      (later : Answered (prompt :: earlier) frames tokens) :
      Answered earlier (frame :: frames) (token :: tokens)

/-- A frame is the end of a handshake that succeeds. -/
inductive Concludes (frame : Frame) : Option ByteArray → Prop
  | ready (opcode : frame.opcode = .ready) : Concludes frame none
  | success (opcode : frame.opcode = .authSuccess) :
      Concludes frame (if authenticator.isSome then some frame.body else none)

/-- A frame shows that there are no good credentials. -/
inductive Unauthentic (earlier : List AuthPrompt) (frame : Frame) : String → Prop
  | missing (absent : authenticator = none) (opcode : frame.opcode = .authenticate) :
      Unauthentic earlier frame
        "Server requires authentication but no credentials are configured"
  | refused {party : Authenticator} {prompt : AuthPrompt} {detail : String}
      (present : authenticator = some party) (asks : promptOf? frame = some prompt)
      (fails : party.respond earlier prompt = .error (.authentication detail)) :
      Unauthentic earlier frame detail
  | rejected {cause : ServerError} (opcode : frame.opcode = .error)
      (read : ServerError.decode frame.body = .ok cause) (kind : cause.kind = .badCredentials) :
      Unauthentic earlier frame cause.message

def promptsOf (frames : List Frame) : List AuthPrompt := (frames.filterMap promptOf?).reverse

def response (token : ByteArray) : Frame := .request 0 .authResponse token

variable {authenticator} {earlier : List AuthPrompt} {frame : Frame}

theorem onFrame_asked {party : Authenticator} {prompt : AuthPrompt}
    (asks : promptOf? frame = some prompt) :
    onFrame (some party) earlier frame = answerPrompt party earlier prompt := by
  unfold promptOf? at asks
  split at asks
  next opcode =>
    cases asks
    simp only [onFrame, opcode]
  next opcode =>
    cases asks
    simp only [onFrame, opcode]
  next => cases asks

theorem onFrame_absent {prompt : AuthPrompt} (asks : promptOf? frame = some prompt) :
    onFrame none earlier frame = .failed
      (if frame.opcode = .authenticate then
        .authenticationFailed "Server requires authentication but no credentials are configured"
      else .protocol (.unexpectedOpcode .authChallenge "READY")) := by
  unfold promptOf? at asks
  split at asks
  next opcode => simp only [onFrame, opcode, if_true]
  next opcode => simp [onFrame, opcode]
  next => cases asks

theorem onFrame_unasked (asks : promptOf? frame = none) :
    onFrame authenticator earlier frame =
      match frame.opcode with
      | .ready => .done none
      | .authSuccess => .done (if authenticator.isSome then some frame.body else none)
      | .error => .failed (failureOf frame.body)
      | other => .failed (.protocol (.unexpectedOpcode other "READY or AUTHENTICATE")) := by
  unfold promptOf? at asks
  unfold onFrame
  cases opcode : frame.opcode <;> simp_all

theorem ofDriverError_authentication {e : DriverError} {detail : String} :
    ChannelError.ofDriverError e = .authenticationFailed detail ↔ e = .authentication detail := by
  cases e <;> simp [ChannelError.ofDriverError]

theorem failureOf_authentication {body : ByteArray} {detail : String} :
    failureOf body = .authenticationFailed detail ↔
      ∃ cause, ServerError.decode body = .ok cause ∧ cause.kind = .badCredentials ∧
        cause.message = detail := by
  unfold failureOf
  cases ServerError.decode body with
  | error e => simp
  | ok cause =>
    by_cases kind : cause.kind = .badCredentials <;> simp [kind]

inductive Explains (authenticator : Option Authenticator) (earlier : List AuthPrompt)
    (frame : Frame) : Step → Prop
  | answers {prompt : AuthPrompt} {token : ByteArray}
      (answers : Answers authenticator earlier frame prompt token) :
      Explains authenticator earlier frame (.answer (response token) prompt)
  | concludes {token : Option ByteArray} (concludes : Concludes authenticator frame token) :
      Explains authenticator earlier frame (.done token)
  | unauthentic {detail : String}
      (unauthentic : Unauthentic authenticator earlier frame detail) :
      Explains authenticator earlier frame (.failed (.authenticationFailed detail))
  | unfit {cause : ChannelError} (other : ∀ detail, cause ≠ .authenticationFailed detail) :
      Explains authenticator earlier frame (.failed cause)

theorem explains_failed {cause : ChannelError}
    (known : ∀ detail, cause = .authenticationFailed detail →
      Unauthentic authenticator earlier frame detail) :
    Explains authenticator earlier frame (.failed cause) := by
  cases cause with
  | authenticationFailed detail => exact .unauthentic (known detail rfl)
  | _ => exact .unfit nofun

theorem answerPrompt_explains {party : Authenticator} {prompt : AuthPrompt}
    (asks : promptOf? frame = some prompt) :
    Explains (some party) earlier frame (answerPrompt party earlier prompt) := by
  unfold answerPrompt
  split
  next e responds =>
    refine explains_failed fun detail fails => ?_
    obtain rfl := ofDriverError_authentication.1 fails
    exact .refused rfl asks responds
  next token responds =>
    split
    next => exact .unfit nofun
    next fits => exact .answers (.token rfl asks responds (Nat.le_of_not_lt fits))

theorem onFrame_explains (authenticator : Option Authenticator) (earlier : List AuthPrompt)
    (frame : Frame) :
    Explains authenticator earlier frame (onFrame authenticator earlier frame) := by
  cases asks : promptOf? frame with
  | none =>
    rw [onFrame_unasked asks]
    split
    next opcode => exact .concludes (.ready opcode)
    next opcode => exact .concludes (.success opcode)
    next opcode =>
      refine explains_failed fun detail fails => ?_
      obtain ⟨cause, read, kind, rfl⟩ := failureOf_authentication.1 fails
      exact .rejected opcode read kind
    next => exact .unfit nofun
  | some prompt =>
    cases authenticator with
    | none =>
      rw [onFrame_absent asks]
      split
      next opcode => exact .unauthentic (.missing rfl opcode)
      next => exact .unfit nofun
    | some party =>
      rw [onFrame_asked asks]
      exact answerPrompt_explains asks

theorem Answers.onFrame {prompt : AuthPrompt} {token : ByteArray}
    (answers : Answers authenticator earlier frame prompt token) :
    onFrame authenticator earlier frame = .answer (response token) prompt := by
  obtain ⟨rfl, asks, responds, fits⟩ := answers
  rw [onFrame_asked asks, answerPrompt, responds]
  exact if_neg (Nat.not_lt.2 fits)

theorem Concludes.onFrame {token : Option ByteArray}
    (concludes : Concludes authenticator frame token) (earlier : List AuthPrompt) :
    onFrame authenticator earlier frame = .done token := by
  cases concludes with
  | ready opcode => simp only [Handshake.onFrame, opcode]
  | success opcode => simp only [Handshake.onFrame, opcode]

theorem Unauthentic.onFrame {detail : String}
    (unauthentic : Unauthentic authenticator earlier frame detail) :
    onFrame authenticator earlier frame = .failed (.authenticationFailed detail) := by
  cases unauthentic with
  | missing absent opcode => simp only [Handshake.onFrame, opcode, absent]
  | refused present asks fails =>
    rw [present, onFrame_asked asks, answerPrompt, fails]
    rfl
  | rejected opcode read kind =>
    simp only [Handshake.onFrame, opcode]
    rw [failureOf_authentication.2 ⟨_, read, kind, rfl⟩]

theorem promptsOf_cons {prompt : AuthPrompt} (asks : promptOf? frame = some prompt)
    (frames : List Frame) :
    promptsOf (frame :: frames) ++ earlier = promptsOf frames ++ prompt :: earlier := by
  simp [promptsOf, asks]

theorem exchange_answered {prompts : List Frame} {tokens : List ByteArray}
    (answered : Answered authenticator earlier prompts tokens) (rest : List Frame) :
    exchange authenticator earlier (prompts ++ rest) =
      let after := exchange authenticator (promptsOf prompts ++ earlier) rest
      { after with written := tokens.map response ++ after.written } := by
  induction answered with
  | nil => rfl
  | cons first later ih =>
    have replies := first.onFrame
    cases first with
    | token _ asks _ _ =>
      rw [promptsOf_cons asks, List.cons_append, exchange, replies]
      simp only [ih]
      rfl

/-- What is left when all prompts that can be answered are. -/
def Decisive (authenticator : Option Authenticator) (earlier : List AuthPrompt)
    (rest : List Frame) : Prop :=
  ∀ frame ∈ rest.head?, ∀ prompt token, ¬Answers authenticator earlier frame prompt token

theorem exists_answered (authenticator : Option Authenticator) (earlier : List AuthPrompt)
    (frames : List Frame) : ∃ prompts tokens rest, frames = prompts ++ rest ∧
      Answered authenticator earlier prompts tokens ∧
      Decisive authenticator (promptsOf prompts ++ earlier) rest := by
  -- What was answered before is remembered, so the claim is about all `earlier` at once.
  induction frames generalizing earlier with
  | nil => exact ⟨[], [], [], rfl, .nil, nofun⟩
  | cons frame frames ih =>
    by_cases asked : ∃ prompt token, Answers authenticator earlier frame prompt token
    · obtain ⟨prompt, token, first⟩ := asked
      obtain ⟨prompts, tokens, rest, rfl, later, decisive⟩ := ih (prompt :: earlier)
      refine ⟨frame :: prompts, token :: tokens, rest, rfl, .cons first later, ?_⟩
      cases first with
      | token _ asks _ _ => rwa [promptsOf_cons asks]
    · refine ⟨[], [], frame :: frames, rfl, .nil, ?_⟩
      rintro _ ⟨⟩ prompt token answers
      exact asked ⟨prompt, token, answers⟩

theorem exchange_decisive {rest : List Frame} (decisive : Decisive authenticator earlier rest) :
    (exchange authenticator earlier rest).written = [] ∧
      (exchange authenticator earlier rest).unread = rest.tail ∧
      (∀ token, (exchange authenticator earlier rest).result = .ok token →
        ∃ last after, rest = last :: after ∧ Concludes authenticator last token) ∧
      ∀ detail, (exchange authenticator earlier rest).result =
          .error (.authenticationFailed detail) →
        ∃ last after, rest = last :: after ∧
          Unauthentic authenticator earlier last detail := by
  cases rest with
  | nil => exact ⟨rfl, rfl, nofun, nofun⟩
  | cons last after =>
    have explains := onFrame_explains authenticator earlier last
    rw [exchange]
    generalize onFrame authenticator earlier last = step at explains
    cases explains with
    -- The frame would belong to the prompts that were answered.
    | answers answers => exact absurd answers (decisive last rfl _ _)
    | concludes concludes =>
      refine ⟨rfl, rfl, ?_, nofun⟩
      rintro _ ⟨⟩
      exact ⟨last, after, rfl, concludes⟩
    | unauthentic unauthentic =>
      refine ⟨rfl, rfl, nofun, ?_⟩
      rintro _ ⟨⟩
      exact ⟨last, after, rfl, unauthentic⟩
    | unfit other =>
      refine ⟨rfl, rfl, nofun, ?_⟩
      rintro detail ⟨⟩
      exact absurd rfl (other detail)

theorem run_answered {prompts : List Frame} {tokens : List ByteArray}
    (answered : Answered authenticator [] prompts tokens) (rest : List Frame) :
    run authenticator (prompts ++ rest) =
      let after := exchange authenticator (promptsOf prompts) rest
      { after with written := startup :: (tokens.map response ++ after.written) } := by
  rw [run, exchange_answered answered, List.append_nil]

theorem run_alone (frames : List Frame) : (run none frames).written = [startup] := by
  have nobody (earlier : List AuthPrompt) (rest : List Frame) : Decisive none earlier rest := by
    rintro frame - prompt token ⟨absent⟩
    cases absent
  rw [run, (exchange_decisive (nobody [] frames)).1]

/-- A handshake answers the prompts at the front of what the server sends, each with a token of the
authenticator that fits into a frame, and then a frame decides it, or the end of all frames. It
writes nothing else and reads nothing behind that frame. It succeeds if the frame is READY or
AUTH_SUCCESS, and it fails for want of good credentials if the frame shows that there are none. -/
theorem last_frame_decides (authenticator : Option Authenticator) (frames : List Frame) :
    (∃ prompts tokens rest, frames = prompts ++ rest ∧
      Answered authenticator [] prompts tokens ∧
      Decisive authenticator (promptsOf prompts) rest ∧
      (run authenticator frames).written =
        startup :: tokens.map (Frame.request 0 .authResponse) ∧
      (run authenticator frames).unread = rest.tail) ∧
    (run none frames).written = [startup] ∧
    (∀ token, (run authenticator frames).result = .ok token ↔
      ∃ prompts tokens last rest, frames = prompts ++ last :: rest ∧
        Answered authenticator [] prompts tokens ∧ Concludes authenticator last token) ∧
    (∀ detail, (run authenticator frames).result = .error (.authenticationFailed detail) ↔
      ∃ prompts tokens last rest, frames = prompts ++ last :: rest ∧
        Answered authenticator [] prompts tokens ∧
        Unauthentic authenticator (promptsOf prompts) last detail) := by
  obtain ⟨prompts, tokens, rest, split, answered, decisive⟩ :=
    exists_answered authenticator [] frames
  rw [List.append_nil] at decisive
  have goes := run_answered answered rest
  rw [← split] at goes
  obtain ⟨silent, left, success, failure⟩ := exchange_decisive decisive
  refine ⟨⟨prompts, tokens, rest, split, answered, decisive, ?_, ?_⟩, ?_,
    fun token => ⟨fun ends => ?_, ?_⟩, fun detail => ⟨fun ends => ?_, ?_⟩⟩
  · rw [goes]
    simp only [silent, List.append_nil]
    rfl
  · rw [goes, left]
  · exact run_alone frames
  · rw [goes] at ends
    obtain ⟨last, after, rfl, concludes⟩ := success token ends
    exact ⟨prompts, tokens, last, after, split, answered, concludes⟩
  · rintro ⟨prompts, tokens, last, rest, rfl, answered, concludes⟩
    rw [run_answered answered, exchange, concludes.onFrame]
  · rw [goes] at ends
    obtain ⟨last, after, rfl, unauthentic⟩ := failure detail ends
    exact ⟨prompts, tokens, last, after, split, answered, unauthentic⟩
  · rintro ⟨prompts, tokens, last, rest, rfl, answered, unauthentic⟩
    rw [run_answered answered, exchange, unauthentic.onFrame]

end ClusterDriver.Handshake
