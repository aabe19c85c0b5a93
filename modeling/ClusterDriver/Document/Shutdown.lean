import ClusterDriver.Document.Values
import ClusterDriver.Shutdown

set_option autoImplicit false

namespace ClusterDriver.Document

open Json (Read)

def shutdownText (report : ShutdownReport) : String :=
  s!"{report.completed.length} completed, {report.failed.length} failed, "
    ++ s!"{report.timedOut.length} timed out in " ++ (Duration.ofMillis report.elapsed).text

def shutdownReport (report : ShutdownReport) : Json :=
  .record [("completed", .list .text report.completed),
    ("failed", .list (fun (name, failure) => .array [.text name, .text failure]) report.failed),
    ("timed_out", .list .text report.timedOut), ("elapsed_ms", .nat report.elapsed),
    ("clean", .bool report.isClean), ("display", .text (shutdownText report))]

def asShutdownMember (value : Json) : Read ShutdownMember := do
  return {
    name := ← value.getString "name"
    finished := ← value.get? "after_ms" Json.asNat
    failure := ← value.get? "error" Json.asString }

end ClusterDriver.Document
