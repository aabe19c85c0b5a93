import ClusterDriver.Document.Values
import ClusterDriver.Simulation.Server

set_option autoImplicit false

namespace ClusterDriver.Document

open Json (Read)
open Simulation (Behavior ScriptItem)

def asBehavior (value : Json) : Read Behavior := do
  match value with
  | .string (some "echo") => return .echo
  | .string (some "never") => return .never
  | .string (some "close") => return .close
  | value =>
      match ← value.get? "respond" asBytes, ← value.get? "duplicate" asBytes,
          ← value.get? "delay_ms" Json.asNat, ← value.get? "code" asErrorKind with
      | some body, _, _, _ => return .respond body
      | _, some body, _, _ => return .duplicate body
      | _, _, some millis, _ => return .delay millis (← getBytes value "body")
      | _, _, _, some kind => return .error ⟨kind, ← value.get "message" asText⟩
      | _, _, _, _ => .error "not a behavior"

def asScriptItem (value : Json) : Input ScriptItem := do
  -- The stream of a frame is what is added to that of the statement.
  match value with
  | .string (some "close") => return .close
  | value =>
      let frame ← asFrame true value
      return .frame { frame with stream := Int16.ofInt (← value.getD "stream_add" 0 Json.asInt) }

end ClusterDriver.Document
