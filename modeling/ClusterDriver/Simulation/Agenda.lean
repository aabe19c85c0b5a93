/-!
Virtual time. An agenda knows the present moment, the processes that have been woken and wait
for their turn, those for which the network has something, and the alarms that will wake others.
Processes take their turns in the order in which they were woken. Nobody looks at the network
before all who were woken have had their turns; then everyone for whom something has come is
woken, in the order in which it came. Alarms go off in the order of their times, those of one
moment in the order in which they were set, and all alarms of a moment go off before any process
takes its turn.
-/

set_option autoImplicit false

namespace ClusterDriver.Simulation

structure Alarm (Waker : Type) where
  due : Nat
  waker : Waker
deriving DecidableEq, Repr

structure Agenda (Process Waker : Type) where
  -- `alarms` is sorted by time.
  now : Nat := 0
  ready : List Process := []
  noticed : List Process := []
  alarms : List (Alarm Waker) := []

namespace Agenda

variable {Process Waker : Type} [DecidableEq Process] [DecidableEq Waker]

def wake (agenda : Agenda Process Waker) (process : Process) : Agenda Process Waker :=
  if process ∈ agenda.ready then agenda
  else { agenda with ready := agenda.ready ++ [process] }

def notice (agenda : Agenda Process Waker) (process : Process) : Agenda Process Waker :=
  if process ∈ agenda.noticed then agenda
  else { agenda with noticed := agenda.noticed ++ [process] }

def next? (agenda : Agenda Process Waker) : Option (Process × Agenda Process Waker) :=
  match agenda.ready, agenda.noticed with
  | process :: rest, _ => some (process, { agenda with ready := rest })
  | [], process :: rest => some (process, { agenda with ready := rest, noticed := [] })
  | [], [] => none

def insertAlarm (alarm : Alarm Waker) : List (Alarm Waker) → List (Alarm Waker)
  -- An alarm goes behind those that are not later.
  | [] => [alarm]
  | first :: rest =>
      if first.due ≤ alarm.due then first :: insertAlarm alarm rest else alarm :: first :: rest

def setAlarm (agenda : Agenda Process Waker) (due : Nat) (waker : Waker) : Agenda Process Waker :=
  if ⟨due, waker⟩ ∈ agenda.alarms then agenda
  else { agenda with alarms := insertAlarm ⟨due, waker⟩ agenda.alarms }

def clearAlarms (agenda : Agenda Process Waker) (belongs : Waker → Bool) : Agenda Process Waker :=
  { agenda with alarms := agenda.alarms.filter fun alarm => !belongs alarm.waker }

def tick (agenda : Agenda Process Waker) : Agenda Process Waker × List Waker :=
  let now := agenda.now + 1
  let due := agenda.alarms.takeWhile fun alarm => alarm.due ≤ now
  ({ agenda with now, alarms := agenda.alarms.drop due.length }, due.map (·.waker))

end Agenda

end ClusterDriver.Simulation
