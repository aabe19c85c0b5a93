import ClusterDriver.Document.Values
import ClusterDriver.Simulation.Turns

set_option autoImplicit false

namespace ClusterDriver.Scenario

open Simulation

def unknownId : Json := .text "no such id"

def channelState (channel : Channel) : Json :=
  .record [("in_flight", .nat channel.inFlight), ("available", .nat channel.available),
    ("orphans", .nat channel.orphans.length), ("rejected", .nat channel.rejected),
    ("usable", .bool channel.isUsable), ("closed", .bool channel.isClosed),
    ("reason", .optional .text channel.closeReason), ("max_streams", .nat channel.capacity)]

def reply (value : Reply) : Json := Document.result Document.channelError Document.frame value

def put {α : Type} (entries : List (String × α)) (name : String) (value : α) :
    List (String × α) :=
  (name, value) :: entries.filter fun entry => entry.1 ≠ name

def remove {α : Type} (entries : List (String × α)) (name : String) : List (String × α) :=
  entries.filter fun entry => entry.1 ≠ name

structure Waits where
  handles : List (String × Handle) := []
  errands : List (String × ErrandId) := []

namespace Waits

def keep (waits : Waits) (world : World) (name : String) (handle : Handle) : Waits × World :=
  -- One that was kept under the same name is given up.
  let world := match waits.handles.lookup name with
    | some earlier => world.abandon earlier
    | none => world
  ({ waits with handles := put waits.handles name handle }, world)

def start (waits : Waits) (world : World) (name : String) (timeout : Nat) :
    Waits × World × Json :=
  match waits.handles.lookup name with
  | none => (waits, world, unknownId)
  | some handle =>
      let (world, errand) := world.begin (.awaitReply handle timeout none)
      ({ handles := remove waits.handles name, errands := put waits.errands name errand }, world,
        .null)

def cancel (waits : Waits) (world : World) (name : String) : Waits × World × Json :=
  match waits.handles.lookup name with
  | none => (waits, world, unknownId)
  | some handle =>
      ({ waits with handles := remove waits.handles name }, world.abandon handle, .null)

def drop (waits : Waits) (world : World) (name : String) : Waits × World :=
  match waits.errands.lookup name with
  | some errand =>
      let world := match world.errands[errand]? with
        | some (.awaitReply handle _ _) => (world.setErrand errand .ended).abandon handle
        | _ => world
      ({ waits with errands := remove waits.errands name }, world)
  | none =>
      let (waits, world, _) := waits.cancel world name
      (waits, world)

def finished (waits : Waits) (results : List (ErrandId × Errand.Result)) :
    Waits × List (String × Json) :=
  let replyTo (errand : ErrandId) : Option Json :=
    match results.lookup errand with
    | some (.reply value) => some (reply value)
    | _ => none
  ({ waits with errands := waits.errands.filter fun (_, errand) => (replyTo errand).isNone },
    waits.errands.filterMap fun (name, errand) => (replyTo errand).map fun value => (name, value))

end Waits

end ClusterDriver.Scenario
