import ClusterDriver.Json

set_option autoImplicit false

namespace ClusterDriver.Json

abbrev Read := Except String

def text (value : String) : Json := .string (some value)

def nat (value : Nat) : Json := .number (some value)

def int (value : Int) : Json := .number (some value)

def record (members : List (String × Json)) : Json :=
  .object (members.map fun (name, value) => (some name, value))

def list {α : Type} (write : α → Json) (values : List α) : Json := .array (values.map write)

def optional {α : Type} (write : α → Json) : Option α → Json
  | none => .null
  | some value => write value

def asInt : Json → Read Int
  | .number (some value) => .ok value
  | _ => .error "not a whole number"

def asNat : Json → Read Nat
  | .number (some (.ofNat value)) => .ok value
  | _ => .error "not a natural number"

def asString : Json → Read String
  | .string (some value) => .ok value
  | _ => .error "not a string"

def asBool : Json → Read Bool
  | .bool value => .ok value
  | _ => .error "not a boolean"

def asList : Json → Read (List Json)
  | .array items => .ok items
  | _ => .error "not a list"

def member? (value : Json) (name : String) : Option Json :=
  match value with
  | .object members =>
      match members.lookup (some name) with
      | some .null => none
      | found => found
  | _ => none

def get? {α : Type} (value : Json) (name : String) (read : Json → Read α) : Read (Option α) :=
  match value.member? name with
  | none => .ok none
  | some found => (read found).map some

def getD {α : Type} (value : Json) (name : String) (fallback : α) (read : Json → Read α) :
    Read α :=
  (value.get? name read).map fun found => found.getD fallback

def get {α : Type} (value : Json) (name : String) (read : Json → Read α) : Read α :=
  match value.member? name with
  | none => .error ("missing " ++ name)
  | some found => read found

def getString (value : Json) (name : String) : Read String := value.get name asString

def getNat (value : Json) (name : String) : Read Nat := value.get name asNat

def getFlag (value : Json) (name : String) : Read Bool := value.getD name false asBool

def getList {α : Type} (value : Json) (name : String) (read : Json → Read α) : Read (List α) := do
  (← value.getD name [] asList).mapM read

def asPart {α : Type} (name : String) (read : Json → Option α) (value : Json) : Read α :=
  match read value with
  | some part => .ok part
  | none => .error ("not a valid " ++ name)

end ClusterDriver.Json
