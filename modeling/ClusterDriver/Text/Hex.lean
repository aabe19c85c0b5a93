set_option autoImplicit false

namespace ClusterDriver.Text

def hex (width value : Nat) : String :=
  let digits := Nat.toDigits 16 value
  String.ofList (List.replicate (width - digits.length) '0' ++ digits)

end ClusterDriver.Text
