import LaneScope.RangeMap
import LaneScope.Coord.Index3

/-!
Kernels.  A kernel is what its launch said about it, together with what has been learnt since and is kept: whether
it was seen on the hardware, its nesting depth, its arguments, and two attributes that a later invalidation drops.
-/

namespace LaneScope

abbrev KernelId := BitVec 64

abbrev GridId := BitVec 64

abbrev Ordinal := BitVec 32

inductive KernelType where
  | system
  | application
deriving DecidableEq

inductive LaunchOrigin where
  | cpu
  | gpu
deriving DecidableEq

inductive GridStatus where
  | invalid | pending | active | sleeping | terminated | undetermined
deriving DecidableEq

def GridStatus.isPresent : GridStatus → Bool
  | active | sleeping => true
  | invalid | pending | terminated | undetermined => false

structure Launch where
  kernel : KernelId
  dev : Ordinal
  grid : GridId
  moduleId : BitVec 64
  entry : Address
  gridDim : Dim3
  blockDim : Dim3
  clusterDim : Dim3
  type : KernelType
  origin : LaunchOrigin
  parent : Option GridId
deriving DecidableEq

inductive Arguments where
  | unknown
  /-- Formatting failed, and is not tried again. -/
  | unavailable
  | known (text : String)
deriving DecidableEq

structure Kernel where
  launch : Launch
  name : String
  launched : Bool := false
  /-- A number for a 32-bit word, which it fits as long as no more than 2 ^ 32 kernels are launched: see
  `TableHistory.TellsDepths.bounded` and `KernelTable.DepthsAgree.told`. -/
  depth : Option Nat := none
  clusterDim : Option Dim3
  gridStatus : Option GridStatus := none
  arguments : Arguments := .unknown
deriving DecidableEq

namespace Kernel

def ofLaunch (launch : Launch) (symbol : Option String) : Kernel where
  launch := launch
  name := symbol.getD "<internal>"
  clusterDim := some launch.clusterDim

def id (kernel : Kernel) : KernelId := kernel.launch.kernel

def dev (kernel : Kernel) : Ordinal := kernel.launch.dev

def grid (kernel : Kernel) : GridId := kernel.launch.grid

/-- Drops what the device may have changed since.  Depth and arguments are kept for good. -/
def invalidate (kernel : Kernel) : Kernel :=
  { kernel with clusterDim := none, gridStatus := none }

def dimensions (kernel : Kernel) : String :=
  "<<<" ++ kernel.launch.gridDim.text ++ "," ++ kernel.launch.blockDim.text ++ ">>>"

def yesNo : Bool → String
  | true => "yes"
  | false => "no"

def text (kernel : Kernel) : String :=
  String.intercalate "\n"
    ["Kernel " ++ toString kernel.id.toNat ++ ":",
      "    name        : " ++ kernel.name,
      "    device id   : " ++ toString kernel.dev.toNat,
      "    grid id     : " ++ toString kernel.grid.toNat,
      "    module id   : " ++ String.ofList (hexadecimal kernel.launch.moduleId.toNat),
      "    entry point : " ++ String.ofList (hexadecimal kernel.launch.entry.toNat),
      "    dimensions  : " ++ kernel.dimensions,
      "    launched    : " ++ yesNo kernel.launched]

def describe (kernel : Kernel) (present : Bool) : String :=
  kernel.text ++ "\n    present     : " ++ yesNo present

end Kernel

end LaneScope
