import ClusterDriver.Json
import ClusterDriver.SocketAddress

set_option autoImplicit false

namespace ClusterDriver.Scenario

def addressOf (position : Nat) : SocketAddress :=
  -- The texts of all addresses are equally long.
  .v4 0x7F000001 (UInt16.ofNat (10001 + position))

abbrev Naming := List String

namespace Naming

def rename (naming : Naming) (text : String) : String :=
  naming.zipIdx.foldl (fun text (name, position) => text.replace (addressOf position).text name)
    text

mutual

def apply (naming : Naming) : Json → Json
  | .string (some text) => .string (some (naming.rename text))
  | .array items => .array (applyItems naming items)
  | .object members => .object (applyMembers naming members)
  | other => other

def applyItems (naming : Naming) : List Json → List Json
  | [] => []
  | item :: rest => apply naming item :: applyItems naming rest

def applyMembers (naming : Naming) : List (Option String × Json) → List (Option String × Json)
  | [] => []
  | (name, value) :: rest =>
      (name.map naming.rename, apply naming value) :: applyMembers naming rest

end

end Naming

end ClusterDriver.Scenario
