import ClusterDriver.Channel.Handshake
import ClusterDriver.Simulation.Server
import Mathlib.Logic.Relation

set_option autoImplicit false

namespace ClusterDriver

namespace Credentials

def separator : Char := '\x00'

def joined (credentials : Credentials) : String :=
  credentials.username ++ "\x00" ++ credentials.password

theorem plainToken_eq (credentials : Credentials) :
    credentials.plainToken = bytesOfList [0] ++ credentials.joined.toUTF8 := by
  have zero : "\x00".toUTF8 = bytesOfList [0] := by decide
  simp only [String.toUTF8_eq_toByteArray] at zero
  simp only [plainToken, joined, String.toUTF8_eq_toByteArray, String.toByteArray_append, zero,
    ByteArray.append_assoc]

theorem plainToken_inj {first second : Credentials} :
    first.plainToken = second.plainToken ↔ first.joined = second.joined := by
  rw [plainToken_eq, plainToken_eq, ByteArray.append_right_inj, String.toUTF8_eq_toByteArray,
    String.toUTF8_eq_toByteArray, String.toByteArray_inj]

end Credentials

theorem AuthConfig.acceptsToken_plainToken (held presented : Credentials) :
    (AuthConfig.mk (some held)).acceptsToken presented.plainToken = true ↔
      presented.joined = held.joined := by
  simp only [acceptsToken, Credentials.accepts, decide_eq_true_iff]
  rw [eq_comm, Credentials.plainToken_inj]

theorem append_cons_inj_of_count {mark : Char} {first second rest others : List Char}
    (same : first ++ mark :: rest = second ++ mark :: others)
    (marks : first.count mark = second.count mark) : first = second ∧ rest = others := by
  induction first generalizing second with
  | nil =>
    cases second with
    | nil => exact ⟨rfl, by simpa using same⟩
    | cons head tail =>
      obtain ⟨rfl, -⟩ := List.cons.inj same
      simp at marks
  | cons head tail ih =>
    cases second with
    | nil =>
      obtain ⟨rfl, -⟩ := List.cons.inj same
      simp at marks
    | cons other more =>
      obtain ⟨rfl, tails⟩ := List.cons.inj same
      have fewer : tail.count mark = more.count mark := by
        simpa [List.count_cons] using marks
      obtain ⟨rfl, behind⟩ := ih tails fewer
      exact ⟨rfl, behind⟩

namespace Credentials

theorem joined_inj_of_count {first second : Credentials}
    (marks : first.username.toList.count separator = second.username.toList.count separator) :
    first.joined = second.joined ↔ first = second := by
  constructor
  · intro same
    have texts := congrArg String.toList same
    simp only [joined, String.toList_append, List.append_assoc] at texts
    obtain ⟨names, words⟩ := append_cons_inj_of_count texts marks
    cases first
    cases second
    simp_all [String.toList_inj]
  · rintro rfl
    rfl

end Credentials

namespace Simulation

structure Dialogue where
  authenticator : Option Authenticator
  earlier : List AuthPrompt := []
  result : Option (Except ChannelError (Option ByteArray)) := none
  server : Server
  authenticated : Bool
  toServer : List Frame := [Handshake.startup]
  toClient : List Frame := []

namespace Dialogue

def opened (authenticator : Option Authenticator) (server : Server) : Dialogue where
  authenticator
  server
  authenticated := !server.auth.requiresAuth

def serve (dialogue : Dialogue) (frame : Frame) (rest : List Frame) : Dialogue :=
  let reaction := dialogue.server.react dialogue.authenticated frame
  { dialogue with
    server := reaction.server
    authenticated := reaction.authenticated
    toServer := rest
    toClient := dialogue.toClient ++ reaction.answers }

def read (dialogue : Dialogue) (frame : Frame) (rest : List Frame) : Dialogue :=
  match Handshake.onFrame dialogue.authenticator dialogue.earlier frame with
  | .answer reply prompt => { dialogue with
      earlier := prompt :: dialogue.earlier
      toServer := dialogue.toServer ++ [reply]
      toClient := rest }
  | .done token => { dialogue with result := some (.ok token), toClient := rest }
  | .failed cause => { dialogue with result := some (.error cause), toClient := rest }

/-- Either party takes a frame that has come to it; the client does so until it has a result. -/
inductive Step : Dialogue → Dialogue → Prop
  | serve {dialogue : Dialogue} {frame : Frame} {rest : List Frame}
      (sent : dialogue.toServer = frame :: rest) : Step dialogue (dialogue.serve frame rest)
  | read {dialogue : Dialogue} {frame : Frame} {rest : List Frame}
      (sent : dialogue.toClient = frame :: rest) (going : dialogue.result = none) :
      Step dialogue (dialogue.read frame rest)

def Reaches : Dialogue → Dialogue → Prop := Relation.ReflTransGen Step

/-- There is one way to go on, from the first to the last, where it ends. -/
inductive Settles : Dialogue → Dialogue → Prop
  | stop {last : Dialogue} (still : ∀ next, ¬Step last next) : Settles last last
  | step {dialogue next last : Dialogue} (moves : Step dialogue next)
      (only : ∀ other, Step dialogue other → other = next) (later : Settles next last) :
      Settles dialogue last

theorem Settles.still {dialogue last : Dialogue} (settles : Settles dialogue last) :
    ∀ next, ¬Step last next := by
  induction settles with
  | stop still => exact still
  | step _ _ _ ih => exact ih

theorem Settles.reaches {dialogue last : Dialogue} (settles : Settles dialogue last) :
    Reaches dialogue last := by
  induction settles with
  | stop => exact .refl
  | step moves _ _ ih => exact .head moves ih

theorem Settles.onward {dialogue reached last : Dialogue} (settles : Settles dialogue last)
    (reaches : Reaches dialogue reached) : Settles reached last := by
  induction reaches using Relation.ReflTransGen.head_induction_on with
  | refl => exact settles
  | head moves _ ih =>
    cases settles with
    | stop still => exact absurd moves (still _)
    | step _ only later =>
      obtain rfl := only _ moves
      exact ih later

section Turns

variable {dialogue last : Dialogue} {frame : Frame}

theorem Settles.serve (sent : dialogue.toServer = [frame]) (quiet : dialogue.toClient = [])
    (later : Settles (dialogue.serve frame []) last) : Settles dialogue last := by
  refine .step (.serve sent) (fun other moves => ?_) later
  cases moves with
  | serve found =>
    obtain ⟨rfl, rfl⟩ := List.cons.inj (found.symm.trans sent)
    rfl
  | read found => simp [quiet] at found

theorem Settles.read (quiet : dialogue.toServer = []) (sent : dialogue.toClient = [frame])
    (going : dialogue.result = none) (later : Settles (dialogue.read frame []) last) :
    Settles dialogue last := by
  refine .step (.read sent going) (fun other moves => ?_) later
  cases moves with
  | serve found => simp [quiet] at found
  | read found =>
    obtain ⟨rfl, rfl⟩ := List.cons.inj (found.symm.trans sent)
    rfl

theorem Settles.done (quiet : last.toServer = []) (told : last.result.isSome) :
    Settles last last := by
  refine .stop fun next moves => ?_
  cases moves with
  | serve found => simp [quiet] at found
  | read _ going => simp [going] at told

end Turns

theorem failureOf_badCredentials :
    Handshake.failureOf (ServerError.encode ⟨.badCredentials, "Bad credentials"⟩) =
      .authenticationFailed "Bad credentials" := by
  decide

section Plain

variable {server : Server} {usual : Behavior} {next : List Behavior}

theorem react_startup (ordinary : server.conduct = .ordinary usual next)
    (asks : server.auth.requiresAuth = true) (authenticated : Bool) :
    server.react authenticated Handshake.startup = {
      server, authenticated
      answers := [.response 0 .authenticate "PasswordAuthenticator".toUTF8] } := by
  simp [Server.react, ordinary, Server.onOrdinary, Handshake.startup, Frame.request,
    Server.onStartup, asks]

theorem answers_authResponse (ordinary : server.conduct = .ordinary usual next)
    (authenticated : Bool) (token : ByteArray) :
    (server.react authenticated (.request 0 .authResponse token)).answers =
      if server.auth.acceptsToken token then [.response 0 .authSuccess ByteArray.empty]
      else [Server.errorFrame 0 .badCredentials "Bad credentials"] := by
  by_cases accepted : server.auth.acceptsToken token = true <;>
    simp [Server.react, ordinary, Server.onOrdinary, Frame.request, Server.onAuthResponse, accepted]

def verdict (held presented : Credentials) : Except ChannelError (Option ByteArray) :=
  if maxBodyLength < presented.plainToken.size then
    .error (.protocol (.frameTooLarge presented.plainToken.size maxBodyLength))
  else if presented.joined = held.joined then .ok (some ByteArray.empty)
  else .error (.authenticationFailed "Bad credentials")

variable {dialogue : Dialogue} {held presented : Credentials}

theorem token_settles (ordinary : dialogue.server.conduct = .ordinary usual next)
    (asks : dialogue.server.auth = ⟨some held⟩)
    (client : dialogue.authenticator = some (.plainText presented)) (going : dialogue.result = none)
    (sent : dialogue.toServer = [.request 0 .authResponse presented.plainToken])
    (quiet : dialogue.toClient = []) (fits : ¬maxBodyLength < presented.plainToken.size) :
    ∃ last, Settles dialogue last ∧ last.result = some (verdict held presented) := by
  have accepted : dialogue.server.auth.acceptsToken presented.plainToken = true ↔
      presented.joined = held.joined := by
    rw [asks]
    exact AuthConfig.acceptsToken_plainToken held presented
  have answers : (dialogue.serve (.request 0 .authResponse presented.plainToken) []).toClient =
      if presented.joined = held.joined then [.response 0 .authSuccess ByteArray.empty]
      else [Server.errorFrame 0 .badCredentials "Bad credentials"] := by
    rw [serve, answers_authResponse ordinary, quiet, List.nil_append]
    simp only [accepted]
  rw [verdict, if_neg fits]
  by_cases same : presented.joined = held.joined
  · rw [if_pos same] at answers ⊢
    refine ⟨_, .serve sent quiet (.read rfl answers going (.done ?_ ?_)), ?_⟩
    all_goals simp [read, serve, Handshake.onFrame, Frame.response, client]
  · rw [if_neg same] at answers ⊢
    refine ⟨_, .serve sent quiet (.read rfl answers going (.done ?_ ?_)), ?_⟩
    all_goals simp [read, serve, Handshake.onFrame, Server.errorFrame, Frame.response,
      failureOf_badCredentials]

theorem prompt_settles (ordinary : dialogue.server.conduct = .ordinary usual next)
    (asks : dialogue.server.auth = ⟨some held⟩)
    (client : dialogue.authenticator = some (.plainText presented)) (going : dialogue.result = none)
    (quiet : dialogue.toServer = []) {mechanism : ByteArray}
    (sent : dialogue.toClient = [.response 0 .authenticate mechanism]) :
    ∃ last, Settles dialogue last ∧ last.result = some (verdict held presented) := by
  have step : Handshake.onFrame dialogue.authenticator dialogue.earlier
      (.response 0 .authenticate mechanism) =
        if maxBodyLength < presented.plainToken.size then
          .failed (.protocol (.frameTooLarge presented.plainToken.size maxBodyLength))
        else .answer (.request 0 .authResponse presented.plainToken)
          (.mechanism (Text.Utf8.lossyText mechanism)) := by
    rw [client]
    rfl
  by_cases large : maxBodyLength < presented.plainToken.size
  · refine ⟨_, .read quiet sent going (.done ?_ ?_), ?_⟩
    all_goals simp [read, step, large, quiet, verdict]
  · have moves : dialogue.read (.response 0 .authenticate mechanism) [] = { dialogue with
        earlier := .mechanism (Text.Utf8.lossyText mechanism) :: dialogue.earlier
        toServer := [.request 0 .authResponse presented.plainToken]
        toClient := [] } := by
      simp [read, step, large, quiet]
    obtain ⟨last, settles, result⟩ : ∃ last,
        Settles (dialogue.read (.response 0 .authenticate mechanism) []) last ∧
          last.result = some (verdict held presented) := by
      rw [moves]
      exact token_settles ordinary asks client going rfl rfl large
    exact ⟨last, .read quiet sent going settles, result⟩

theorem plainText_settles (ordinary : server.conduct = .ordinary usual next)
    (asks : server.auth = ⟨some held⟩) (presented : Credentials) :
    ∃ last, Settles (opened (some (.plainText presented)) server) last ∧
      last.result = some (verdict held presented) := by
  have required : server.auth.requiresAuth = true := by rw [asks]; rfl
  have moves : (opened (some (.plainText presented)) server).serve Handshake.startup [] =
      { opened (some (.plainText presented)) server with
        toServer := []
        toClient := [.response 0 .authenticate "PasswordAuthenticator".toUTF8] } := by
    simp [serve, opened, react_startup ordinary required]
  obtain ⟨last, settles, result⟩ : ∃ last,
      Settles ((opened (some (.plainText presented)) server).serve Handshake.startup []) last ∧
        last.result = some (verdict held presented) := by
    rw [moves]
    exact prompt_settles ordinary asks rfl rfl rfl rfl
  exact ⟨last, .serve rfl rfl settles, result⟩

end Plain

end Dialogue

open Dialogue

/-- Credentials are accepted if they read the same as those that are held, which are the same ones
if there are equally many separators in the user names, and then a handshake with them succeeds if
their token is not over the limit of a frame. -/
theorem joined_credentials_decide {server : Server} {usual : Behavior} {next : List Behavior}
    (ordinary : server.conduct = .ordinary usual next) {held : Credentials}
    (asks : server.auth = ⟨some held⟩) (presented : Credentials) :
    (server.auth.acceptsToken presented.plainToken = true ↔ presented.joined = held.joined) ∧
    (presented = held ↔ presented.joined = held.joined ∧
      presented.username.toList.count Credentials.separator =
        held.username.toList.count Credentials.separator) ∧
    ∃ last, (∀ reached, Reaches (opened (some (.plainText presented)) server) reached →
        Reaches reached last) ∧
      (∀ later, ¬Step last later) ∧
      ((∃ token, last.result = some (.ok token)) ↔
        presented.joined = held.joined ∧ presented.plainToken.size ≤ maxBodyLength) := by
  refine ⟨?_, ?_, ?_⟩
  · rw [asks]
    exact AuthConfig.acceptsToken_plainToken held presented
  · constructor
    · rintro rfl
      exact ⟨rfl, rfl⟩
    · rintro ⟨same, marks⟩
      exact (Credentials.joined_inj_of_count marks).1 same
  · obtain ⟨last, settles, result⟩ := plainText_settles ordinary asks presented
    refine ⟨last, fun reached reaches => (settles.onward reaches).reaches, settles.still, ?_⟩
    rw [result, verdict]
    by_cases large : maxBodyLength < presented.plainToken.size
    · simp [large]
    · by_cases same : presented.joined = held.joined
      · simp [large, same, Nat.le_of_not_lt large]
      · simp [large, same]

def guarded : Server where
  address := .v4 1 9042
  conduct := .ordinary .echo []
  auth := ⟨some ⟨"a", "b\x00c"⟩⟩

theorem moved_separator_accepted :
    guarded.auth.acceptsToken (Credentials.plainToken ⟨"a\x00b", "c"⟩) = true ∧
      (⟨"a\x00b", "c"⟩ : Credentials) ≠ ⟨"a", "b\x00c"⟩ := by
  decide

theorem guarded_joined_credentials_decide :
    guarded.conduct = .ordinary .echo [] ∧ guarded.auth = ⟨some ⟨"a", "b\x00c"⟩⟩ ∧
    ∃ last, Reaches (opened (some (.plainText ⟨"a\x00b", "c"⟩)) guarded) last ∧
      ∃ token, last.result = some (.ok token) := by
  obtain ⟨-, -, last, every, -, succeeds⟩ :=
    joined_credentials_decide (show guarded.conduct = .ordinary .echo [] from rfl)
      (show guarded.auth = ⟨some ⟨"a", "b\x00c"⟩⟩ from rfl) ⟨"a\x00b", "c"⟩
  exact ⟨rfl, rfl, last, every _ .refl, succeeds.2 ⟨by decide, by decide⟩⟩

end Simulation

end ClusterDriver
