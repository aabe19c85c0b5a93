import ClusterDriver.Config
import ClusterDriver.Request.Retry
import ClusterDriver.Request.Speculation
import ClusterDriver.Text.Duration

set_option autoImplicit false

namespace ClusterDriver

structure Profile where
  -- Times are in milliseconds.
  name : String
  requestTimeout : Nat
  attemptTimeout : Nat
  pageSize : Option Nat
  idempotent : Bool
  maxSameNodeRetries : Nat
  retry : RetryPolicy
  speculation : SpeculationPolicy

namespace Profile

def speculationOf (settings : ProfileSettings) : SpeculationPolicy :=
  -- Speculation needs a delay and room for a second execution.
  match settings.speculativeDelay with
  | some delay =>
      if 1 < settings.maxExecutions then .constant ⟨delay, settings.maxExecutions⟩
      else .never
  | none => .never

def ofSettings (name : String) (settings : ProfileSettings) : Profile where
  name
  requestTimeout := settings.requestTimeout
  attemptTimeout := settings.effectiveAttemptTimeout
  pageSize := settings.pageSize
  idempotent := settings.idempotent
  maxSameNodeRetries := settings.maxSameNodeRetries
  retry := .standard ⟨settings.maxRetries, settings.ignoreWriteTimeouts⟩
  speculation := speculationOf settings

def standard : Profile := ofSettings defaultProfileName {}

def describe (profile : Profile) : String :=
  "ExecutionProfile \x7b name: " ++ Text.quoted profile.name
    ++ ", request_timeout: " ++ (Duration.ofMillis profile.requestTimeout).text
    ++ ", attempt_timeout: " ++ (Duration.ofMillis profile.attemptTimeout).text
    ++ s!", idempotent: {profile.idempotent}, max_same_node_retries: {profile.maxSameNodeRetries}"
    ++ ", .. \x7d"

end Profile

structure ProfileRegistry where
  profiles : List Profile

namespace ProfileRegistry

def initial : ProfileRegistry := ⟨[Profile.standard]⟩

def insert (registry : ProfileRegistry) (profile : Profile) : ProfileRegistry :=
  ⟨registry.profiles.filter (fun other => other.name ≠ profile.name) ++ [profile]⟩

def find? (registry : ProfileRegistry) (name : String) : Option Profile :=
  registry.profiles.find? fun profile => profile.name = name

def names (registry : ProfileRegistry) : List String := registry.profiles.map (·.name)

def sortedNames (registry : ProfileRegistry) : List String :=
  registry.names.mergeSort fun first second => first ≤ second

def sorted (registry : ProfileRegistry) : List Profile :=
  registry.sortedNames.filterMap registry.find?

def describe (registry : ProfileRegistry) : String :=
  let entry (profile : Profile) := Text.quoted profile.name ++ ": " ++ profile.describe
  "ProfileRegistry \x7b profiles: \x7b" ++ ", ".intercalate (registry.sorted.map entry)
    ++ "\x7d \x7d"

def ofConfig (config : DriverConfig) : ProfileRegistry :=
  config.profiles.foldl
    (fun registry (name, settings) => registry.insert (.ofSettings name settings)) initial

end ProfileRegistry

end ClusterDriver
