import LaneScope.Device.Unit
import LaneScope.Kernel.Table

/-!
Snapshots of device state.  A snapshot describes devices of one shape, the kernels launched on them, and the
records of their grids.  It starts out idle; launches register kernels, `populate` puts warps to work, and single
units can be adjusted afterwards.
-/

namespace LaneScope

structure Shape where
  devices : Ordinal
  sms : Ordinal
  warps : Ordinal
  lanes : Ordinal
deriving DecidableEq

structure GridRecord where
  /-- Zero on some axis where the launch does not use clusters. -/
  clusterDim : Dim3
  status : GridStatus
deriving DecidableEq

structure Snapshot where
  shape : Shape
  sm : Ordinal × Ordinal → Sm := fun _ => {}
  warp : Site → Warp := fun _ => {}
  clock : Tick := 0
  breakpoint : Ordinal × Address → Bool := fun _ => false
  kernels : KernelTable := .empty
  functions : RangeMap String := .empty
  grid : Ordinal × GridId → Option GridRecord := fun _ => none
  gridQueries : Nat := 0

inductive PopulateFault where
  | unregistered (kernel : KernelId)
  | outOfRange
  /-- The place of a thread, the size of a plane of the block, or the counter of the lanes does not fit 32 bits. -/
  | overflow
deriving DecidableEq

namespace Snapshot

def ofShape (shape : Shape) : Snapshot := { shape }

def hasDevice (snapshot : Snapshot) (dev : Ordinal) : Bool :=
  dev.toNat < snapshot.shape.devices.toNat

def hasSm (snapshot : Snapshot) (dev sm : Ordinal) : Bool :=
  snapshot.hasDevice dev && decide (sm.toNat < snapshot.shape.sms.toNat)

def hasWarp (snapshot : Snapshot) (site : Site) : Bool :=
  snapshot.hasSm site.dev site.sm && decide (site.wp.toNat < snapshot.shape.warps.toNat)

def hasLane (snapshot : Snapshot) (site : Site) (ln : Ordinal) : Bool :=
  snapshot.hasWarp site && decide (ln.toNat < snapshot.shape.lanes.toNat)

def sitesOnSm (snapshot : Snapshot) (dev sm : Ordinal) : List Site :=
  (ordinals snapshot.shape.warps).map fun wp => ⟨dev, sm, wp⟩

def sitesOnDevice (snapshot : Snapshot) (dev : Ordinal) : List Site :=
  (ordinals snapshot.shape.sms).flatMap (snapshot.sitesOnSm dev)

def sites (snapshot : Snapshot) : List Site :=
  (ordinals snapshot.shape.devices).flatMap snapshot.sitesOnDevice

def warpValid (snapshot : Snapshot) (site : Site) : Bool :=
  (snapshot.sm (site.dev, site.sm)).valid && (snapshot.warp site).valid

def lane (snapshot : Snapshot) (site : Site) (ln : Ordinal) : Lane :=
  (snapshot.warp site).lanes ln

def laneValid (snapshot : Snapshot) (site : Site) (ln : Ordinal) : Bool :=
  snapshot.warpValid site && (snapshot.lane site ln).valid

def laneActive (snapshot : Snapshot) (site : Site) (ln : Ordinal) : Bool :=
  snapshot.laneValid site ln && (snapshot.lane site ln).active

def kernelAt (snapshot : Snapshot) (site : Site) : Option Kernel :=
  snapshot.kernels.findGrid site.dev (snapshot.warp site).grid

def isStale (snapshot : Snapshot) : Option Tick → Bool
  | some tick => tick.toNat < snapshot.clock.toNat
  | none => false

def addFunction (snapshot : Snapshot) (start size : Address) (name : String) :
    Except RangeFault Snapshot :=
  (snapshot.functions.insert start size name).map fun functions => { snapshot with functions }

def kernelOf (snapshot : Snapshot) (launch : Launch) : Kernel :=
  .ofLaunch launch (snapshot.functions.get? launch.entry)

def launch (snapshot : Snapshot) (launch : Launch) : Snapshot :=
  { snapshot with
    kernels := snapshot.kernels.insert (snapshot.kernelOf launch)
    grid := assign snapshot.grid (launch.dev, launch.grid) (some ⟨launch.clusterDim, .active⟩) }

def setGridStatus (snapshot : Snapshot) (dev : Ordinal) (grid : GridId) (status : GridStatus) : Snapshot :=
  { snapshot with
    grid := assign snapshot.grid (dev, grid)
      ((snapshot.grid (dev, grid)).map fun record => { record with status }) }

def forgetGrid (snapshot : Snapshot) (dev : Ordinal) (grid : GridId) : Snapshot :=
  { snapshot with grid := assign snapshot.grid (dev, grid) none }

def retireGrid (snapshot : Snapshot) (dev : Ordinal) (grid : GridId) : Snapshot :=
  { snapshot with
    warp := fun site =>
      let warp := snapshot.warp site
      if site.dev = dev ∧ warp.valid ∧ warp.grid = grid then warp.retire else warp }

def exitKernel (snapshot : Snapshot) (kernel : Kernel) : Snapshot :=
  let unregistered := { snapshot with kernels := snapshot.kernels.erase kernel.id }
  (unregistered.setGridStatus kernel.dev kernel.grid .terminated).retireGrid kernel.dev kernel.grid

def setClock (snapshot : Snapshot) (clock : Tick) : Snapshot :=
  { snapshot with clock }

def setBreakpoint (snapshot : Snapshot) (dev : Ordinal) (pc : Address) (present : Bool) : Snapshot :=
  { snapshot with breakpoint := assign snapshot.breakpoint (dev, pc) present }

def changeSm (snapshot : Snapshot) (dev sm : Ordinal) (change : Sm → Sm) : Snapshot :=
  { snapshot with sm := assign snapshot.sm (dev, sm) (change (snapshot.sm (dev, sm))) }

def changeWarp (snapshot : Snapshot) (site : Site) (change : Warp → Warp) : Snapshot :=
  { snapshot with warp := assign snapshot.warp site (change (snapshot.warp site)) }

def changeLane (snapshot : Snapshot) (site : Site) (ln : Ordinal) (change : Lane → Lane) : Snapshot :=
  snapshot.changeWarp site fun warp => { warp with lanes := assign warp.lanes ln (change (warp.lanes ln)) }

def clusterOf (snapshot : Snapshot) (dev : Ordinal) (grid : GridId) (block : Dim3) : Dim3 :=
  match snapshot.grid (dev, grid) with
  | some record => if record.clusterDim.hasVolume then block.quotient record.clusterDim else .zero
  | none => .zero

/-- Whether the lanes can be counted, and the threads from the first on, one for each lane, have places and indices of 32
bits.  The counter of the lanes runs one number ahead, and past the last lane it is read once more. -/
def threadsFit (snapshot : Snapshot) (blockDim : Dim3) (first : BitVec 32) : Bool :=
  decide (snapshot.shape.lanes.toNat + 1 < UInt32.size) &&
    (snapshot.shape.lanes == 0 ||
      (decide (blockDim.columns * blockDim.rows < UInt32.size) &&
        decide (first.toNat + snapshot.shape.lanes.toNat ≤ UInt32.size)))

def workingWarp (snapshot : Snapshot) (dev : Ordinal) (kernel : Kernel) (block : Dim3)
    (first active : BitVec 32) : Warp where
  valid := true
  broken := false
  timestamp := some snapshot.clock
  grid := kernel.grid
  block := block
  cluster := snapshot.clusterOf dev kernel.grid block
  lanes := fun ln =>
    { valid := true
      active := ln.toNat < active.toNat
      exception := none
      timestamp := some snapshot.clock
      pc := kernel.launch.entry
      thread := .ofLinear kernel.launch.blockDim (first.toNat + ln.toNat) }

def populate (snapshot : Snapshot) (site : Site) (id : KernelId) (block : Dim3)
    (first active : BitVec 32) : Except PopulateFault Snapshot :=
  match snapshot.kernels.find? id with
  | none => .error (.unregistered id)
  | some kernel =>
    if snapshot.hasWarp site then
      if snapshot.threadsFit kernel.launch.blockDim first then
        let working := snapshot.workingWarp site.dev kernel block first active
        .ok ((snapshot.changeSm site.dev site.sm fun sm => { sm with valid := true }).changeWarp site
          fun _ => working)
      else .error .overflow
    else .error .outOfRange

end Snapshot

end LaneScope
