set_option autoImplicit false

namespace ClusterDriver

structure Duration where
  nanos : Nat
deriving DecidableEq, Repr, Inhabited

namespace Duration

def ofMillis (millis : Nat) : Duration := ⟨millis * 1000000⟩

def toMillis (duration : Duration) : Nat := duration.nanos / 1000000

def fractionDigits (places value : Nat) : List Char :=
  let digits := Nat.toDigits 10 value
  let padded := List.replicate (places - digits.length) '0' ++ digits
  (padded.reverse.dropWhile (· = '0')).reverse

def inUnits (nanos places : Nat) (unit : String) : String :=
  let scale := Nat.pow 10 places
  let fraction := fractionDigits places (nanos % scale)
  let point := if fraction.isEmpty then "" else "." ++ String.ofList fraction
  toString (nanos / scale) ++ point ++ unit

def text (duration : Duration) : String :=
  if 1000000000 ≤ duration.nanos then inUnits duration.nanos 9 "s"
  else if 1000000 ≤ duration.nanos then inUnits duration.nanos 6 "ms"
  else if 1000 ≤ duration.nanos then inUnits duration.nanos 3 "µs"
  else inUnits duration.nanos 0 "ns"

end Duration

end ClusterDriver
