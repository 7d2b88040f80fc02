import LaneScope.Text.WhiteSpace
import LaneScope.Text.Decimal

/-!
Settings of the reports on kernel launches and exits, read from named variables.  A value that cannot be read leaves
its setting at the default and is reported.
-/

namespace LaneScope

structure Settings where
  /-- Kernels nested at least this deeply are not reported; zero reports every depth. -/
  eventDepth : BitVec 32 := 0
  systemEvents : Bool := false
  applicationEvents : Bool := true
deriving DecidableEq

inductive ValueFault where
  | empty
  | invalidDigit
  | tooLarge
  | notBoolean
deriving DecidableEq

def ValueFault.message : ValueFault → String
  | empty => "cannot parse integer from empty string"
  | invalidDigit => "invalid digit found in string"
  | tooLarge => "number too large to fit in target type"
  | notBoolean => "provided string was not `true` or `false`"

structure IgnoredSetting where
  name : String
  value : String
  fault : ValueFault
deriving DecidableEq

namespace Settings

/-- Reads digits from the left after the number read so far.  Whichever comes first, a character that is no digit or
a number beyond 32 bits, is the fault. -/
def readDigits (number : Nat) : List Char → Except ValueFault Nat
  | [] => .ok number
  | char :: rest =>
    if char.isDigit then
      let next := number * 10 + (char.toNat - '0'.toNat)
      if next < UInt32.size then readDigits next rest else .error .tooLarge
    else .error .invalidDigit

def readNumber : List Char → Except ValueFault (BitVec 32)
  | [] => .error .empty
  | ['+'] => .error .invalidDigit
  | '+' :: digits => (readDigits 0 digits).map (BitVec.ofNat 32)
  | digits => (readDigits 0 digits).map (BitVec.ofNat 32)

def readFlag (text : List Char) : Except ValueFault Bool :=
  if text = "true".toList then .ok true
  else if text = "false".toList then .ok false
  else .error .notBoolean

def depthVariable : String := "WARPSLICE_KERNEL_EVENTS_DEPTH"

def systemVariable : String := "WARPSLICE_KERNEL_EVENTS_SYSTEM"

def applicationVariable : String := "WARPSLICE_KERNEL_EVENTS_APPLICATION"

def readVariable {α : Type} (lookup : String → Option String) (name : String)
    (read : List Char → Except ValueFault α) (default : α) : α × List IgnoredSetting :=
  match lookup name with
  | none => (default, [])
  | some value =>
    match read (trimmed value.toList) with
    | .ok setting => (setting, [])
    | .error fault => (default, [⟨name, value, fault⟩])

def ofVariables (lookup : String → Option String) : Settings × List IgnoredSetting :=
  let defaults : Settings := {}
  let (depth, depthIgnored) := readVariable lookup depthVariable readNumber defaults.eventDepth
  let (system, systemIgnored) := readVariable lookup systemVariable readFlag defaults.systemEvents
  let (application, applicationIgnored) :=
    readVariable lookup applicationVariable readFlag defaults.applicationEvents
  (⟨depth, system, application⟩, depthIgnored ++ systemIgnored ++ applicationIgnored)

end Settings

end LaneScope
