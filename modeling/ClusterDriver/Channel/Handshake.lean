import ClusterDriver.Channel.Error
import ClusterDriver.Credentials
import ClusterDriver.Frame
import ClusterDriver.ServerError

set_option autoImplicit false

namespace ClusterDriver.Handshake

def startup : Frame := .request 0 .startup ByteArray.empty

inductive Step where
  | answer (frame : Frame) (prompt : AuthPrompt)
  | done (token : Option ByteArray)
  | failed (cause : ChannelError)

def answerPrompt (authenticator : Authenticator) (earlier : List AuthPrompt)
    (prompt : AuthPrompt) : Step :=
  match authenticator.respond earlier prompt with
  | .error e => .failed (.ofDriverError e)
  | .ok token =>
      if maxBodyLength < token.size then
        .failed (.protocol (.frameTooLarge token.size maxBodyLength))
      else .answer (.request 0 .authResponse token) prompt

def failureOf (body : ByteArray) : ChannelError :=
  match ServerError.decode body with
  | .error e => .protocol e
  | .ok cause =>
      if cause.kind = .badCredentials then .authenticationFailed cause.message
      else .connectFailed cause.text

/-- The reaction to a frame; `earlier` holds the prompts answered so far. -/
def onFrame (authenticator : Option Authenticator) (earlier : List AuthPrompt)
    (frame : Frame) : Step :=
  match frame.opcode with
  | .ready => .done none
  | .authenticate =>
      match authenticator with
      | none =>
          .failed (.authenticationFailed
            "Server requires authentication but no credentials are configured")
      | some authenticator =>
          answerPrompt authenticator earlier (.mechanism (Text.Utf8.lossyText frame.body))
  | .authChallenge =>
      match authenticator with
      | none => .failed (.protocol (.unexpectedOpcode .authChallenge "READY"))
      | some authenticator => answerPrompt authenticator earlier (.challenge frame.body)
  | .authSuccess => .done (if authenticator.isSome then some frame.body else none)
  | .error => .failed (failureOf frame.body)
  | other => .failed (.protocol (.unexpectedOpcode other "READY or AUTHENTICATE"))

def endedEarly : ChannelError := .connectFailed "Connection closed during handshake"

structure Transcript where
  written : List Frame
  result : Except ChannelError (Option ByteArray)
  unread : List Frame

def exchange (authenticator : Option Authenticator) (earlier : List AuthPrompt) :
    List Frame → Transcript
  | [] => ⟨[], .error endedEarly, []⟩
  | frame :: rest =>
      match onFrame authenticator earlier frame with
      | .done token => ⟨[], .ok token, rest⟩
      | .failed cause => ⟨[], .error cause, rest⟩
      | .answer reply prompt =>
          let after := exchange authenticator (prompt :: earlier) rest
          { after with written := reply :: after.written }

def run (authenticator : Option Authenticator) (frames : List Frame) : Transcript :=
  let after := exchange authenticator [] frames
  { after with written := startup :: after.written }

end ClusterDriver.Handshake
