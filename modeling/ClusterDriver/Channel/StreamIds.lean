import ClusterDriver.Config

set_option autoImplicit false

namespace ClusterDriver

abbrev StreamId := Int16

structure StreamIds where
  words : List (BitVec 64)
  capacity : Nat
  inUse : Nat
deriving DecidableEq, Repr

namespace StreamIds

def wordSize : Nat := 64

def ofCapacity (capacity : Nat) : StreamIds :=
  -- There are never more ids than non-negative 16-bit numbers.
  let capacity := min capacity maxStreamsLimit
  ⟨List.replicate ((capacity + (wordSize - 1)) / wordSize) 0, capacity, 0⟩

def lowestClear? (word : BitVec 64) : Option Nat :=
  (List.range wordSize).find? fun bit => !word.getLsbD bit

def lowestFree? (base : Nat) : List (BitVec 64) → Option Nat
  -- The first word holds the ids from `base` on.
  | [] => none
  | word :: rest =>
      match lowestClear? word with
      | some bit => some (base + bit)
      | none => lowestFree? (base + wordSize) rest

def maskOf (id : Nat) : BitVec 64 := 1#64 <<< (id % wordSize)

def isHeld (ids : StreamIds) (id : Nat) : Bool :=
  (ids.words.getD (id / wordSize) 0).getLsbD (id % wordSize)

def acquire? (ids : StreamIds) : Option (StreamId × StreamIds) :=
  match lowestFree? 0 ids.words with
  | none => none
  | some id =>
      if id < ids.capacity then
        some (Int16.ofNat id, { ids with
          words := ids.words.modify (id / wordSize) (· ||| maskOf id)
          inUse := ids.inUse + 1 })
      else none

def release? (ids : StreamIds) (stream : StreamId) : Option StreamIds :=
  let id := stream.toInt.toNat
  if stream < 0 ∨ ids.capacity ≤ id ∨ !ids.isHeld id then none
  else
    some { ids with
      words := ids.words.modify (id / wordSize) (· &&& ~~~maskOf id)
      inUse := ids.inUse - 1 }

end StreamIds

end ClusterDriver
