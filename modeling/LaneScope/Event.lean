import LaneScope.Query.Basic
import LaneScope.Coord.Text
import LaneScope.Kernel.Basic
import LaneScope.Settings
import LaneScope.Text.Quoted

/-!
Events, as they are logged.
-/

namespace LaneScope

inductive Event where
  | settingIgnored (setting : IgnoredSetting)
  | kernelCreated (kernel : KernelId) (name : String)
  | kernelDestroyed (kernel : KernelId)
  | kernelInvalidated (kernel : KernelId)
  | argumentsKept (kernel : KernelId)
  | argumentsPassedOver (kernel : KernelId)
  | argumentsRead (kernel : KernelId) (text : String)
  | argumentsFailed (kernel : KernelId) (reason : String)
  | queryAnswered (query : Query) (found : Nat)
deriving DecidableEq

namespace Event

def level : Event → String
  | settingIgnored _ => "WARN"
  | queryAnswered _ _ => "DEBUG"
  | _ => "TRACE"

def ofKernel (kernel : KernelId) (text : String) : String :=
  "kernel " ++ toString kernel.toNat ++ ": " ++ text

def message : Event → String
  | settingIgnored setting =>
    "ignoring " ++ setting.name ++ "=" ++ quoted setting.value ++ ": " ++ setting.fault.message
  | kernelCreated kernel name => ofKernel kernel ("created (" ++ name ++ ")")
  | kernelDestroyed kernel => ofKernel kernel "destroyed"
  | kernelInvalidated kernel => ofKernel kernel "invalidate"
  | argumentsKept kernel => ofKernel kernel "populate_args (cached)"
  | argumentsPassedOver kernel => ofKernel kernel "populate_args - skipping, not focused on kernel"
  | argumentsRead kernel text => ofKernel kernel ("populate_args: " ++ text)
  | argumentsFailed kernel reason => ofKernel kernel ("populate_args failed: " ++ reason)
  | queryAnswered _ _ => "coord set query"

end Event

end LaneScope
