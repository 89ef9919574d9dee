import TuxedoDrivers.Kernel

/-!
# WMI methods

What the NB04 and the NB05 drivers make of the object that
`wmidev_evaluate_method` returns.
-/

namespace TuxedoDrivers.Wmi

/-- A `struct wmi_device`, by its address. -/
abbrev Device := Nat

/-- `union acpi_object`, with the types that the drivers tell apart. -/
inductive AcpiObject where
  | integer (value : U64)
  | buffer (bytes : List U8)
  | other
  deriving DecidableEq, Repr

/-- What `wmidev_evaluate_method` returns: the ACPI status, and on success the
object in the output buffer. -/
inductive Reply where
  | failure
  | success (object : Option AcpiObject)
  deriving DecidableEq, Repr

namespace Reply

/-- The value of a method that returns an integer. -/
def integer : Reply → Except Int U64
  | failure => .error (-eio)
  | success none => .error (-enodata)
  | success (some (.integer value)) => .ok value
  | success (some _) => .error (-eio)

/-- The bytes of a method that returns a buffer of some length. -/
def buffer (length : Nat) (otherType : Int) : Reply → Except Int (List U8)
  | failure => .error (-eio)
  | success none => .error (-enodata)
  | success (some (.buffer bytes)) =>
      if bytes.length = length then .ok bytes else .error (-eio)
  | success (some _) => .error otherType

end Reply

end TuxedoDrivers.Wmi
