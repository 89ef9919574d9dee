import Mathlib.Data.List.DropRight
import TuxedoDrivers.Kernel

/-!
# Texts of attribute files

What a user writes to an attribute file reaches the driver as a text.  The
functions here are the kernel's for reading one: comparing it with a word,
removing the white space around it, and parsing a number or a switch.
-/

namespace TuxedoDrivers

abbrev erange : Int := 34

/-- `sysfs_streq`: equal but for a newline at the end of one of the two. -/
def sysfsStreq (first second : String) : Bool :=
  decide
    (first = second ∨ first ++ "\n" = second ∨ first = second ++ "\n")

/-- `isspace`; a character of a sysfs buffer is one byte. -/
def isspace (character : Char) : Bool :=
  decide (character.toNat ∈ [0x09, 0x0a, 0x0b, 0x0c, 0x0d, 0x20, 0xa0])

def strstrip (text : String) : String :=
  String.ofList ((text.toList.rdropWhile isspace).dropWhile isspace)

/-! ## Numbers -/

/-- The value of a digit up to `f`, in either case. -/
def digitValue (character : Char) : Option Nat :=
  let lower := character.toLower
  if character.isDigit = true then
    some (character.toNat - '0'.toNat)
  else if 'a' ≤ lower ∧ lower ≤ 'f' then
    some (lower.toNat - 'a'.toNat + 10)
  else none

/-- `_parse_integer`: the value of the leading digits and what follows them,
where `value` is what was read so far. -/
def parseInteger (base : Nat) : List Char → Nat → Nat × List Char
  | [], value => (value, [])
  | character :: rest, value =>
      match digitValue character with
      | none => (value, character :: rest)
      | some digit =>
          if digit < base then
            parseInteger base rest (value * base + digit)
          else (value, character :: rest)

/-- `_parse_integer_fixup_radix`: the base that a prefix tells if none is
given, and the text without the prefix of a hexadecimal number. -/
def fixupRadix (text : List Char) (base : Nat) : Nat × List Char :=
  match text with
  | '0' :: mark :: digit :: rest =>
      if mark.toLower = 'x' ∧
          (base = 16 ∨ (base = 0 ∧ (digitValue digit).isSome = true)) then
        (16, digit :: rest)
      else (if base = 0 then 8 else base, text)
  | ['0', mark] =>
      if mark.toLower = 'x' ∧ base = 16 then (16, [])
      else (if base = 0 then 8 else base, text)
  | '0' :: _ => (if base = 0 then 8 else base, text)
  | _ => (if base = 0 then 10 else base, text)

/-- `_kstrtoull`: one newline may follow the digits and nothing else. -/
def kstrtoullDigits (text : List Char) (base : Nat) : Except Int Nat :=
  let prepared := fixupRadix text base
  let parsed := parseInteger prepared.1 prepared.2 0
  if 18446744073709551616 ≤ parsed.1 then
    .error (-erange)
  else if parsed.2.length = prepared.2.length then
    .error (-einval)
  else if parsed.2 = [] ∨ parsed.2 = ['\n'] then
    .ok parsed.1
  else .error (-einval)

def kstrtoull (buf : String) (base : Nat) : Except Int Nat :=
  match buf.toList with
  | '+' :: text => kstrtoullDigits text base
  | text => kstrtoullDigits text base

def kstrtou8 (buf : String) (base : Nat) : Except Int U8 :=
  match kstrtoull buf base with
  | .error result => .error result
  | .ok value =>
      if value < 256 then .ok (BitVec.ofNat 8 value) else .error (-erange)

def kstrtouint (buf : String) (base : Nat) : Except Int U32 :=
  match kstrtoull buf base with
  | .error result => .error result
  | .ok value =>
      if value < 4294967296 then .ok (BitVec.ofNat 32 value)
      else .error (-erange)

/-- `kstrtoll` of a text without the sign, whose value is to be negated. -/
def kstrtollNegative (text : List Char) (base : Nat) : Except Int Int :=
  match kstrtoullDigits text base with
  | .error result => .error result
  | .ok value =>
      if value ≤ 9223372036854775808 then .ok (-(value : Int))
      else .error (-erange)

def kstrtoll (buf : String) (base : Nat) : Except Int Int :=
  match buf.toList with
  | '-' :: text => kstrtollNegative text base
  | _ =>
      match kstrtoull buf base with
      | .error result => .error result
      | .ok value =>
          if value < 9223372036854775808 then .ok value
          else .error (-erange)

def kstrtoint (buf : String) (base : Nat) : Except Int Int :=
  match kstrtoll buf base with
  | .error result => .error result
  | .ok value =>
      if -2147483648 ≤ value ∧ value < 2147483648 then .ok value
      else .error (-erange)

/-- The number of a text that is 0 or 1. -/
def onAsked (buf : String) : Option Int :=
  match kstrtoint buf 10 with
  | .error _ => none
  | .ok on => if on < 0 ∨ on > 1 then none else some on

theorem kstrtoullDigits_error_neg {text : List Char} {base : Nat}
    {result : Int} (failed : kstrtoullDigits text base = .error result) :
    result < 0 := by
  simp only [kstrtoullDigits] at failed
  split at failed
  · cases failed
    decide
  · split at failed
    · cases failed
      decide
    · split at failed
      · cases failed
      · cases failed
        decide

/-- A number that cannot be read is an error. -/
theorem kstrtou8_error_neg {buf : String} {base : Nat} {result : Int}
    (failed : kstrtou8 buf base = .error result) : result < 0 := by
  simp only [kstrtou8] at failed
  split at failed
  case h_1 unread =>
    cases failed
    simp only [kstrtoull] at unread
    split at unread
    · exact kstrtoullDigits_error_neg unread
    · exact kstrtoullDigits_error_neg unread
  case h_2 value read =>
    split at failed
    · cases failed
    · cases failed
      decide

example : kstrtou8 "0x1F\n" 0 = .ok 31 ∧ kstrtou8 "256" 10 = .error (-34) ∧
    kstrtou8 "12 " 10 = .error (-22) := by decide

/-- `sysfs_emit` of a byte as `%d` with a newline. -/
def sysfsEmitByte (byte : U8) : String :=
  toString byte.toNat ++ "\n"

/-- What is shown can be stored again. -/
theorem kstrtou8_sysfsEmitByte (byte : U8) :
    kstrtou8 (sysfsEmitByte byte) 0 = .ok byte := by
  revert byte
  decide +kernel

/-! ## Switches -/

/-- `kstrtobool`, which looks at the first one or two characters only.  This is
the version of the kernels that do not yet take the letters of `enable` and
`disable`, as newer ones do. -/
def kstrtobool (buf : String) : Except Int Bool :=
  match buf.toList with
  | [] => .error (-einval)
  | first :: rest =>
      if first ∈ ['y', 'Y', 't', 'T', '1'] then .ok true
      else if first ∈ ['n', 'N', 'f', 'F', '0'] then .ok false
      else if first ∈ ['o', 'O'] then
        match rest with
        | second :: _ =>
            if second ∈ ['n', 'N'] then .ok true
            else if second ∈ ['f', 'F'] then .ok false
            else .error (-einval)
        | [] => .error (-einval)
      else .error (-einval)

end TuxedoDrivers
