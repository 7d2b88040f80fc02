import LaneScope.Coord.Basic

/-!
Levels of detail.  A granularity names the kind of unit that a listing reports, and `Coords.project` opens the axes
that this kind of unit does not determine.
-/

namespace LaneScope

inductive Granularity where
  | devices | sms | warps | lanes | kernels | blocks | threads
deriving DecidableEq

namespace Granularity

def all : List Granularity := [devices, sms, warps, lanes, kernels, blocks, threads]

def name : Granularity → String
  | devices => "devices"
  | sms => "sms"
  | warps => "warps"
  | lanes => "lanes"
  | kernels => "kernels"
  | blocks => "blocks"
  | threads => "threads"

/-- Kernels, blocks and threads exist only where a valid warp runs them. -/
def isLogical : Granularity → Bool
  | kernels | blocks | threads => true
  | devices | sms | warps | lanes => false

def isSingleLane : Granularity → Bool
  | lanes | threads => true
  | devices | sms | warps | kernels | blocks => false

def keeps : Granularity → Axis → Bool
  | _, .dev => true
  | devices, _ => false
  | sms, .sm | sms, .kernel | sms, .grid => true
  | sms, _ => false
  | warps, .ln => false
  | warps, _ => true
  | kernels, .kernel | kernels, .grid => true
  | kernels, _ => false
  | blocks, .wp | blocks, .ln => false
  | blocks, _ => true
  | lanes, _ | threads, _ => true

end Granularity

def Coords.project (coords : Coords) (granularity : Granularity) : Coords where
  physical :=
    { dev := coords.physical.dev.keep (granularity.keeps .dev)
      sm := coords.physical.sm.keep (granularity.keeps .sm)
      wp := coords.physical.wp.keep (granularity.keeps .wp)
      ln := coords.physical.ln.keep (granularity.keeps .ln) }
  logical :=
    { kernel := coords.logical.kernel.keep (granularity.keeps .kernel)
      grid := coords.logical.grid.keep (granularity.keeps .grid)
      cluster := coords.logical.cluster.keep (granularity.keeps .cluster)
      block := coords.logical.block.keep (granularity.keeps .block)
      thread := coords.logical.thread.keep (granularity.keeps .thread) }

end LaneScope
