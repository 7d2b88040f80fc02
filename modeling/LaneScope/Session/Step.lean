import LaneScope.Session.Basic

/-!
Steps of a session: what can be done in it, what is answered, and what can go wrong.
-/

namespace LaneScope

structure SmChange where
  valid : Option Bool := none
  exception : Option Bool := none

structure WarpChange where
  valid : Option Bool := none
  broken : Option Bool := none
  timestamp : Option (Option Tick) := none
  grid : Option GridId := none
  block : Option Dim3 := none
  cluster : Option Dim3 := none

structure LaneChange where
  valid : Option Bool := none
  active : Option Bool := none
  exception : Option (Option LaneException) := none
  timestamp : Option (Option Tick) := none
  pc : Option Address := none
  thread : Option Dim3 := none

def SmChange.apply (change : SmChange) (sm : Sm) : Sm where
  valid := change.valid.getD sm.valid
  exception := change.exception.getD sm.exception

def WarpChange.apply (change : WarpChange) (warp : Warp) : Warp :=
  { warp with
    valid := change.valid.getD warp.valid
    broken := change.broken.getD warp.broken
    timestamp := change.timestamp.getD warp.timestamp
    grid := change.grid.getD warp.grid
    block := change.block.getD warp.block
    cluster := change.cluster.getD warp.cluster }

def LaneChange.apply (change : LaneChange) (lane : Lane) : Lane where
  valid := change.valid.getD lane.valid
  active := change.active.getD lane.active
  exception := change.exception.getD lane.exception
  timestamp := change.timestamp.getD lane.timestamp
  pc := change.pc.getD lane.pc
  thread := change.thread.getD lane.thread

inductive Edit where
  | addFunction (start size : Address) (name : String)
  | launch (launch : Launch)
  | exitKernel (kernel : KernelId)
  | setGridStatus (dev : Ordinal) (grid : GridId) (status : GridStatus)
  | forgetGrid (dev : Ordinal) (grid : GridId)
  | setClock (clock : Tick)
  | setBreakpoint (dev : Ordinal) (pc : Address) (present : Bool)
  | setSm (dev sm : Ordinal) (change : SmChange)
  | setWarp (site : Site) (change : WarpChange)
  | setLane (site : Site) (ln : Ordinal) (change : LaneChange)
  | populate (site : Site) (kernel : KernelId) (block : Dim3) (first active : BitVec 32)
  | invalidate
  | setOutage (reason : Option String)

inductive Reading where
  | gridQueries
  | counts
  | sm (dev sm : Ordinal)
  | warp (site : Site)
  | breakpointAt (dev : Ordinal) (pc : Address)
  | gridInfo (dev : Ordinal) (grid : GridId)
  | gridStatusOf (dev : Ordinal) (grid : GridId)
  | query (query : Query) (probes : List Coords)
  | firstValidThread
  | firstTrap
  | firstException
  | nearestAtBreakpoint (origin : Coords)
  | logicalOf (address : Physical)
  | physicalOf (address : Logical)
  | kernels
  | findGrid (dev : Ordinal) (grid : GridId)
  | residentKernels
  | updateArguments (frames : Frames)

inductive KernelStep where
  | summary
  | setLaunched (launched : Bool)
  | depth
  | children
  | clusterDim
  | gridStatus
  | present
  | describe
  | invalidate
  | smMask
  | shouldReport (settings : Settings)
  /-- Reads the arguments without telling them. -/
  | readArguments (frames : Frames)
  | arguments (frames : Frames)

inductive Step where
  | edit (edit : Edit)
  | read (reading : Reading)
  | onKernel (kernel : KernelId) (step : KernelStep)

inductive Answer where
  | done
  | kernel (kernel : Option Kernel)
  | clock (clock : Tick)
  | count (count : Nat)
  | counts (clock : Tick) (shape : Shape)
  | sm (sm : Sm)
  | warp (warp : Warp) (kernel : Option KernelId) (lanes : List Lane)
  | flag (flag : Bool)
  | flags (flags : List Bool)
  | gridInfo (clusterDim : Dim3)
  | gridStatus (status : GridStatus)
  | set (query : Query) (set : CoordSet) (probes : List Bool)
  | coords (coords : Option Coords)
  | logical (address : Option Logical)
  | physical (address : Option Physical)
  | kernels (kernels : List Kernel)
  | id (kernel : Option KernelId)
  | ids (kernels : List KernelId)
  | dim (dim : Dim3)
  | text (text : String)
  | formats (formats : Nat)
  | arguments (text : Option String) (formats : Nat)

inductive Fault where
  | query (fault : QueryFault)
  | lookup (fault : LookupFault)
  | depth (fault : DepthFault)
  | range (fault : RangeFault)
  | unregistered (kernel : KernelId)
  | outOfRange
  | overflow
  | noSuchKernel
deriving DecidableEq

def Fault.isFinal : Fault → Bool
  | query (.unknownKernel _) => true
  | query (.partialOrigin _ _) | query (.lookup _) | lookup _ | noSuchKernel => false
  | depth _ | range _ | unregistered _ | outOfRange | overflow => true

def Fault.message : Fault → String
  | query fault => fault.message
  | lookup fault => fault.message
  | depth fault => fault.message
  | range fault => fault.message
  | unregistered kernel => "populate_warp: unknown kernel " ++ toString kernel.toNat
  | outOfRange => "no such unit"
  | overflow => "number out of range"
  | noSuchKernel => "no such kernel"

structure Turn where
  answer : Except Fault Answer
  session : Session
  events : List Event := []

end LaneScope
