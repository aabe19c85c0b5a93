set_option autoImplicit false

namespace ClusterDriver

namespace BigEndian

def toNat (bytes : List UInt8) : Nat :=
  bytes.foldl (fun value byte => value * 256 + byte.toNat) 0

def ofNat : Nat → Nat → List UInt8
  | 0, _ => []
  | width + 1, value => UInt8.ofNat (value >>> (8 * width)) :: ofNat width value

end BigEndian

instance (priority := 2000) decidableEqBytes : DecidableEq ByteArray := fun first second =>
  decidable_of_iff (first.data = second.data) ByteArray.ext_iff.symm

def bytesOfList (bytes : List UInt8) : ByteArray := ⟨bytes.toArray⟩

end ClusterDriver
