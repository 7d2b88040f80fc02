import LaneScope.Query.Basic
import LaneScope.Device.Snapshot

/-!
The walk of a query, through the devices, the multiprocessors of a device, the warps of a multiprocessor and the
lanes of a warp.  Each lane that the query asks for is a hit.  A round over units ends early as soon as what it has
found answers for the rest of it, and a warp is passed over when its kernel, or its block, has been reported.  The
walk ends at the first warp whose kernel cannot be told.
-/

namespace LaneScope

inductive LookupFault where
  | gridNotFound (dev : Ordinal) (grid : GridId)
  | unreachable (reason : String)
deriving DecidableEq

def LookupFault.message : LookupFault → String
  | gridNotFound dev grid =>
    "grid " ++ toString grid.toNat ++ " not found on device " ++ toString dev.toNat
  | unreachable reason => reason

inductive QueryFault where
  | partialOrigin (addressing : Addressing) (granularity : Granularity)
  | lookup (fault : LookupFault)
  | unknownKernel (site : Site)
deriving DecidableEq

def QueryFault.message : QueryFault → String
  | partialOrigin addressing granularity =>
    "nearest-neighbor " ++ addressing.name ++ " order needs fully defined coordinates, but " ++
      granularity.name ++ " coordinates are partially wildcard"
  | lookup fault => fault.message
  | unknownKernel site =>
    "valid warp dev" ++ toString site.dev.toNat ++ ".sm" ++ toString site.sm.toNat ++ ".wp" ++
      toString site.wp.toNat ++ " runs an unknown kernel"

structure Provider where
  snapshot : Snapshot
  lookup : Ordinal → GridId → Except LookupFault GridRecord

/-- An answer together with the kernels whose cluster extent was asked for on the way, in the order of asking. -/
structure Consulted (α : Type) where
  kernels : List KernelId
  outcome : Except QueryFault α

def Consulted.of {α : Type} (value : α) : Consulted α := ⟨[], .ok value⟩

def Consulted.andThen {α β : Type} (first : Consulted α) (next : α → Consulted β) : Consulted β :=
  match first.outcome with
  | .error fault => ⟨first.kernels, .error fault⟩
  | .ok value => ⟨first.kernels ++ (next value).kernels, (next value).outcome⟩

def Snapshot.lookup (snapshot : Snapshot) (dev : Ordinal) (grid : GridId) : Except LookupFault GridRecord :=
  match snapshot.grid (dev, grid) with
  | some record => .ok record
  | none => .error (.gridNotFound dev grid)

def Snapshot.provider (snapshot : Snapshot) : Provider :=
  ⟨snapshot, snapshot.lookup⟩

def Provider.clusterDim (provider : Provider) (kernel : Kernel) : Except LookupFault Dim3 :=
  match kernel.clusterDim with
  | some dim => .ok dim
  | none => (provider.lookup kernel.dev kernel.grid).map GridRecord.clusterDim

def Provider.identity (provider : Provider) (site : Site) : Except QueryFault Logical :=
  if provider.snapshot.warpValid site then
    match provider.snapshot.kernelAt site with
    | none => .error (.unknownKernel site)
    | some kernel =>
      match provider.clusterDim kernel with
      | .error fault => .error (.lookup fault)
      | .ok dim =>
        let warp := provider.snapshot.warp site
        .ok
          { kernel := .value kernel.id
            grid := .value warp.grid
            cluster := if dim.hasVolume then .ofDim3 warp.cluster else .inapplicable
            block := .ofDim3 warp.block }
  else .ok .invalid

def Snapshot.consults (snapshot : Snapshot) (site : Site) : List KernelId :=
  if snapshot.warpValid site then (snapshot.kernelAt site).toList.map Kernel.id else []

def Site.coords (site : Site) : Coords where
  physical := { dev := .value site.dev, sm := .value site.sm, wp := .value site.wp }

def Snapshot.threadAt (snapshot : Snapshot) (site : Site) (ln : Ordinal) : Index3 :=
  if snapshot.laneValid site ln then .ofDim3 (snapshot.lane site ln).thread else .invalid

def Logical.acceptsWarp (filter identity : Logical) : Bool :=
  filter.kernel.accepts identity.kernel && filter.grid.accepts identity.grid &&
    filter.cluster.accepts identity.cluster && filter.block.accepts identity.block

namespace Granularity

def isOnePerWarp (granularity : Granularity) : Bool := !granularity.isSingleLane

def isOnePerSm : Granularity → Bool
  | devices | sms => true
  | warps | lanes | kernels | blocks | threads => false

def isOnePerDevice : Granularity → Bool
  | devices => true
  | sms | warps | lanes | kernels | blocks | threads => false

/-- What tells units apart that may be met again on other warps. -/
def key? : Granularity → Logical → Option (Field 64 × Option Index3)
  | kernels, identity => some (identity.kernel, none)
  | blocks, identity => some (identity.kernel, some identity.block)
  | devices, _ | sms, _ | warps, _ | lanes, _ | threads, _ => none

end Granularity

/-- What a walk has found so far, the latest first, and the keys of the units among it that may be met again. -/
structure Findings where
  found : List Coords := []
  seen : List (Field 64 × Option Index3) := []

def Findings.hasSeen (findings : Findings) (granularity : Granularity) (identity : Logical) : Bool :=
  (granularity.key? identity).any findings.seen.contains

def Findings.add (findings : Findings) (granularity : Granularity) (hit : Coords) : Findings where
  found := hit.project granularity :: findings.found
  seen := (granularity.key? hit.logical).toList ++ findings.seen

namespace Query

variable (query : Query)

def opensDevice (dev : Ordinal) : Bool :=
  query.filter.physical.dev.accepts (.value dev)

def opensSm (snapshot : Snapshot) (dev sm : Ordinal) : Bool :=
  let unit := snapshot.sm (dev, sm)
  query.filter.physical.sm.accepts (.value sm) &&
    (!(query.select.exception || query.select.smException) || unit.exception) &&
    (!query.select.valid || unit.valid)

def opensWarp (snapshot : Snapshot) (site : Site) : Bool :=
  let warp := snapshot.warp site
  query.filter.physical.wp.accepts (.value site.wp) &&
    (!(query.select.valid || query.granularity.isLogical) || snapshot.warpValid site) &&
    (!query.select.currentClock || !snapshot.isStale warp.timestamp) &&
    (!query.select.trap || warp.broken)

def takesLane (snapshot : Snapshot) (site : Site) (ln : Ordinal) : Bool :=
  let lane := snapshot.lane site ln
  let valid := snapshot.laneValid site ln
  let active := snapshot.laneActive site ln
  query.filter.physical.ln.accepts (.value ln) &&
    (!query.select.valid || valid) &&
    (!query.select.active || active) &&
    (!query.select.currentClock || !snapshot.isStale lane.timestamp) &&
    (!query.select.breakpoint || (active && snapshot.breakpoint (site.dev, lane.pc))) &&
    (!query.select.exception || (active && lane.exception.isSome)) &&
    (!query.select.trap || active)

def hit? (snapshot : Snapshot) (site : Site) (identity : Logical) (ln : Ordinal) : Option Coords :=
  let thread := snapshot.threadAt site ln
  if query.takesLane snapshot site ln && query.filter.logical.thread.accepts thread then
    some ⟨.lane site.dev site.sm site.wp ln, { identity with thread }⟩
  else none

/-- Whether a round ends after a visit: a single unit was asked for and is found, or the round has one unit to
report and the visit has found it. -/
def isEnough (oneUnit : Bool) (before after : Findings) : Bool :=
  (query.select.single && !after.found.isEmpty) ||
    (oneUnit && decide (before.found.length < after.found.length))

def round {α : Type} (oneUnit : Bool) (visit : α → Findings → Consulted Findings) :
    List α → Findings → Consulted Findings
  | [], findings => .of findings
  | unit :: rest, findings =>
    (visit unit findings).andThen fun after =>
      if query.isEnough oneUnit findings after then .of after else round oneUnit visit rest after

def visitLane (snapshot : Snapshot) (site : Site) (identity : Logical) (ln : Ordinal)
    (findings : Findings) : Consulted Findings :=
  match query.hit? snapshot site identity ln with
  | some hit => .of (findings.add query.granularity hit)
  | none => .of findings

def visitWarp (provider : Provider) (site : Site) (findings : Findings) : Consulted Findings :=
  if query.opensWarp provider.snapshot site then
    let told : Consulted Logical := ⟨provider.snapshot.consults site, provider.identity site⟩
    told.andThen fun identity =>
      if query.filter.logical.acceptsWarp identity && !findings.hasSeen query.granularity identity then
        query.round query.granularity.isOnePerWarp (query.visitLane provider.snapshot site identity)
          (ordinals provider.snapshot.shape.lanes) findings
      else .of findings
  else .of findings

def visitSm (provider : Provider) (dev sm : Ordinal) (findings : Findings) : Consulted Findings :=
  if query.opensSm provider.snapshot dev sm then
    query.round query.granularity.isOnePerSm (fun wp => query.visitWarp provider ⟨dev, sm, wp⟩)
      (ordinals provider.snapshot.shape.warps) findings
  else .of findings

def visitDevice (provider : Provider) (dev : Ordinal) (findings : Findings) : Consulted Findings :=
  if query.opensDevice dev then
    query.round query.granularity.isOnePerDevice (query.visitSm provider dev)
      (ordinals provider.snapshot.shape.sms) findings
  else .of findings

def walk (provider : Provider) : Consulted (List Coords) :=
  (query.round false (query.visitDevice provider) (ordinals provider.snapshot.shape.devices) {}).andThen
    fun findings => .of findings.found

end Query

end LaneScope
