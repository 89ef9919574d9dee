import Mathlib.Data.List.Infix
import Mathlib.Tactic.Common

/-!
# What the drivers take from the kernel

Fixed-width integers, the error numbers the drivers return, and the DMI
strings of the machine.  DMI strings never change while the machine runs, so
they are a parameter of every function that matches them.
-/

namespace TuxedoDrivers

abbrev U8 := BitVec 8
abbrev U16 := BitVec 16
abbrev U32 := BitVec 32
abbrev U64 := BitVec 64

/-! ## Error numbers -/

abbrev enoent : Int := 2
abbrev eio : Int := 5
abbrev enomem : Int := 12
abbrev enodev : Int := 19
abbrev einval : Int := 22
abbrev enodata : Int := 61

@[simp]
theorem eio_ne_zero : eio ≠ 0 := by
  decide

/-! ## DMI strings -/

/-- The DMI fields the drivers look at. -/
inductive DmiField where
  | sysVendor
  | productName
  | productSku
  | productSerial
  | boardName
  deriving DecidableEq, Repr

/-- `dmi_get_system_info`: the string of a field, if the machine has it. -/
abbrev Dmi := DmiField → Option String

/-- `dmi_match`: the field is present and equal to the text. -/
def dmiMatch (dmi : Dmi) (field : DmiField) (text : String) : Bool :=
  decide (dmi field = some text)

/-- A chain of `dmi_match` calls joined by `||`. -/
def dmiMatchAny (dmi : Dmi) (entries : List (DmiField × String)) : Bool :=
  entries.any fun entry => dmiMatch dmi entry.1 entry.2

def strstr (text sought : String) : Bool :=
  decide (sought.toList <:+: text.toList)

/-- One entry of a `dmi_system_id` table.  `DMI_MATCH` compares with
`strstr`, not for equality. -/
structure DmiSystemId (δ : Type) where
  matchers : List (DmiField × String)
  driverData : δ

/-- `dmi_matches`: every field of the entry contains its text. -/
def DmiSystemId.matchedBy {δ : Type} (entry : DmiSystemId δ)
    (dmi : Dmi) : Bool :=
  entry.matchers.all fun wanted =>
    match dmi wanted.1 with
    | some text => strstr text wanted.2
    | none => false

/-- `dmi_first_match`. -/
def dmiFirstMatch {δ : Type} (dmi : Dmi)
    (table : List (DmiSystemId δ)) : Option (DmiSystemId δ) :=
  table.find? fun entry => entry.matchedBy dmi

/-- `dmi_check_system`: some entry of the table matches. -/
def dmiCheckSystem {δ : Type} (dmi : Dmi)
    (table : List (DmiSystemId δ)) : Bool :=
  (dmiFirstMatch dmi table).isSome

end TuxedoDrivers
