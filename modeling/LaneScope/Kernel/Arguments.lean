import LaneScope.Kernel.Table
import LaneScope.Event

/-!
Arguments of kernels.  They are formatted from the frame that the debugger looks at, which tells the arguments of
the kernel in focus and of no other.  The first attempt settles them, whether it succeeds or fails.
-/

namespace LaneScope

/-- What the debugger shows throughout one call: the kernel in focus and the outcome of formatting are the same for
every kernel that the call comes to.  Another call may be shown other frames. -/
structure Frames where
  focus : Option KernelId
  formatted : Except String String

structure ArgumentsReading where
  arguments : Arguments
  formats : Nat
  event : Event

namespace Kernel

def readArguments (kernel : Kernel) (frames : Frames) : ArgumentsReading :=
  if kernel.arguments ≠ .unknown then ⟨kernel.arguments, 0, .argumentsKept kernel.id⟩
  else if frames.focus ≠ some kernel.id then ⟨.unknown, 0, .argumentsPassedOver kernel.id⟩
  else
    match frames.formatted with
    | .ok text => ⟨.known text, 1, .argumentsRead kernel.id text⟩
    | .error reason => ⟨.unavailable, 1, .argumentsFailed kernel.id reason⟩

end Kernel

def Arguments.text? : Arguments → Option String
  | known text => some text
  | unknown | unavailable => none

def KernelTable.readArguments (table : KernelTable) (frames : Frames) : KernelTable :=
  table.revise (fun kernel => { kernel with arguments := (kernel.readArguments frames).arguments }) fun _ => rfl

end LaneScope
