import LoginReport.Proofs.Session.StaleBytes
import Mathlib.Data.List.TakeWhile

set_option autoImplicit false

/-!
# Host names

What is shown of the host name in a host field. The name ends at the first NUL. The visible bytes at
its beginning are shown, and a dash for all that is left of it, or for a name that shows nothing.
-/

namespace LoginReport.HostField

/-- How many bytes are looked at. -/
def reach (length width : Int) : Nat := (max (min length width) 0).toNat

/-- The bytes of the name, as many as there are and as fit the width. -/
def nameBytes (raw : Bytes) (length width : Int) : Bytes :=
  untilNul (raw.take (reach length width))

end LoginReport.HostField
