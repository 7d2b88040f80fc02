import Mathlib
import LaneScope.Proofs.Kernel.Table
import LaneScope.Proofs.Query.Faults

/-!
What queries see of a snapshot.  They look at a warp only as far as its multiprocessor and the warp itself are valid,
and at a lane only as far as it is valid and active, whether or not they report units that are not.  Main statement:
snapshots that show the same to this look give the same answers, the same faults included.
-/

namespace LaneScope

variable {query : Query} {snapshot other : Snapshot} {site : Site} {ln : Ordinal}

namespace Snapshot

structure SameWarp (snapshot other : Snapshot) (site : Site) : Prop where
  clock : snapshot.clock = other.clock
  sm : snapshot.sm (site.dev, site.sm) = other.sm (site.dev, site.sm)
  warp : snapshot.warp site = other.warp site
  breakpoint : ∀ pc, snapshot.breakpoint (site.dev, pc) = other.breakpoint (site.dev, pc)

namespace SameWarp

variable (same : snapshot.SameWarp other site)
include same

theorem warpValid_eq : snapshot.warpValid site = other.warpValid site := by
  rw [warpValid, warpValid, same.sm, same.warp]

theorem enters_eq (query : Query) : query.enters snapshot site = query.enters other site := by
  unfold Query.enters Query.opensSm Query.opensWarp isStale
  rw [same.warpValid_eq, same.sm, same.warp, same.clock]

theorem hit?_eq (query : Query) (identity : Logical) :
    query.hit? snapshot site identity = query.hit? other site identity := by
  unfold Query.hit? Query.takesLane threadAt laneActive laneValid lane isStale
  simp only [same.warpValid_eq, same.warp, same.clock, same.breakpoint]

end SameWarp

theorem hasSm_of_hasWarp (inRange : snapshot.hasWarp site = true) : snapshot.hasSm site.dev site.sm = true := by
  rw [hasWarp, Bool.and_eq_true] at inRange
  exact inRange.1

theorem hasDevice_of_hasWarp (inRange : snapshot.hasWarp site = true) : snapshot.hasDevice site.dev = true := by
  have onSm := hasSm_of_hasWarp inRange
  rw [hasSm, Bool.and_eq_true] at onSm
  exact onSm.1

theorem hasWarp_of_hasLane (inRange : snapshot.hasLane site ln = true) : snapshot.hasWarp site = true := by
  rw [hasLane, Bool.and_eq_true] at inRange
  exact inRange.1

/-- Whether two snapshots agree on all that a query may look at.  Of a multiprocessor that is not valid this leaves out
which of its warps are valid, of a warp that is not valid what it runs and what its lanes do, of a lane that is not
valid its thread and whether it is active, and of a lane that is not active its exception and its place in the
program.  Of the record of a grid it leaves out the status. -/
structure ShowsSame (snapshot other : Snapshot) : Prop where
  shape : snapshot.shape = other.shape
  clock : snapshot.clock = other.clock
  kernels : snapshot.kernels = other.kernels
  extent : ∀ key, (snapshot.grid key).map GridRecord.clusterDim = (other.grid key).map GridRecord.clusterDim
  sm : ∀ dev sm, snapshot.hasSm dev sm = true → snapshot.sm (dev, sm) = other.sm (dev, sm)
  breakpoint : ∀ dev pc, snapshot.hasDevice dev = true → snapshot.breakpoint (dev, pc) = other.breakpoint (dev, pc)
  warp : ∀ site, snapshot.hasWarp site = true →
    (snapshot.warp site).broken = (other.warp site).broken ∧
      (snapshot.warp site).timestamp = (other.warp site).timestamp ∧
      ((snapshot.sm (site.dev, site.sm)).valid = true → (snapshot.warp site).valid = (other.warp site).valid)
  work : ∀ site, snapshot.hasWarp site = true → snapshot.warpValid site = true →
    (snapshot.warp site).grid = (other.warp site).grid ∧ (snapshot.warp site).block = (other.warp site).block ∧
      (snapshot.warp site).cluster = (other.warp site).cluster
  lane : ∀ site ln, snapshot.hasLane site ln = true →
    (snapshot.lane site ln).timestamp = (other.lane site ln).timestamp ∧
      (snapshot.warpValid site = true → (snapshot.lane site ln).valid = (other.lane site ln).valid)
  thread : ∀ site ln, snapshot.hasLane site ln = true → snapshot.laneValid site ln = true →
    (snapshot.lane site ln).thread = (other.lane site ln).thread ∧
      (snapshot.lane site ln).active = (other.lane site ln).active
  action : ∀ site ln, snapshot.hasLane site ln = true → snapshot.laneActive site ln = true →
    (snapshot.lane site ln).pc = (other.lane site ln).pc ∧
      (snapshot.lane site ln).exception = (other.lane site ln).exception

namespace ShowsSame

variable (same : snapshot.ShowsSame other)
include same

theorem warpValid_eq (inRange : snapshot.hasWarp site = true) : snapshot.warpValid site = other.warpValid site := by
  rw [warpValid, warpValid, ← same.sm _ _ (hasSm_of_hasWarp inRange)]
  cases onSm : (snapshot.sm (site.dev, site.sm)).valid with
  | false => rfl
  | true => rw [(same.warp site inRange).2.2 onSm]

theorem laneValid_eq (inRange : snapshot.hasLane site ln = true) :
    snapshot.laneValid site ln = other.laneValid site ln := by
  rw [laneValid, laneValid, ← same.warpValid_eq (hasWarp_of_hasLane inRange)]
  cases onWarp : snapshot.warpValid site with
  | false => rfl
  | true => rw [(same.lane site ln inRange).2 onWarp]

theorem laneActive_eq (inRange : snapshot.hasLane site ln = true) :
    snapshot.laneActive site ln = other.laneActive site ln := by
  rw [laneActive, laneActive, ← same.laneValid_eq inRange]
  cases valid : snapshot.laneValid site ln with
  | false => rfl
  | true => rw [(same.thread site ln inRange valid).2]

theorem threadAt_eq (inRange : snapshot.hasLane site ln = true) :
    snapshot.threadAt site ln = other.threadAt site ln := by
  rw [threadAt, threadAt, ← same.laneValid_eq inRange]
  cases valid : snapshot.laneValid site ln with
  | false => rfl
  | true => rw [(same.thread site ln inRange valid).1]

theorem kernelAt_eq (inRange : snapshot.hasWarp site = true) (valid : snapshot.warpValid site = true) :
    snapshot.kernelAt site = other.kernelAt site := by
  rw [kernelAt, kernelAt, (same.work site inRange valid).1, same.kernels]

theorem clusterDim_eq (kernel : Kernel) : snapshot.provider.clusterDim kernel = other.provider.clusterDim kernel := by
  have extent := same.extent (kernel.dev, kernel.grid)
  rcases KernelTable.both_of_map_eq extent.symm with ⟨absent, alsoAbsent⟩ | ⟨record, otherRecord, found, alsoFound, alike⟩
  · simp only [Provider.clusterDim, provider, lookup, absent, alsoAbsent]
  · simp only [Provider.clusterDim, provider, lookup, found, alsoFound, Except.map, alike]

theorem consults_eq (inRange : snapshot.hasWarp site = true) : snapshot.consults site = other.consults site := by
  rw [consults, consults, ← same.warpValid_eq inRange]
  cases valid : snapshot.warpValid site with
  | false => rfl
  | true => rw [same.kernelAt_eq inRange valid]

theorem enters_eq (inRange : snapshot.hasWarp site = true) :
    query.enters snapshot site = query.enters other site := by
  obtain ⟨broken, timestamp, -⟩ := same.warp site inRange
  unfold Query.enters Query.opensSm Query.opensWarp isStale
  dsimp only
  rw [same.warpValid_eq inRange, same.sm _ _ (hasSm_of_hasWarp inRange), same.clock, broken, timestamp]

theorem takesLane_eq (inRange : snapshot.hasLane site ln = true) :
    query.takesLane snapshot site ln = query.takesLane other site ln := by
  have timestamp := (same.lane site ln inRange).1
  unfold Query.takesLane isStale
  dsimp only
  rw [same.laneValid_eq inRange, ← same.laneActive_eq inRange, same.clock, timestamp]
  -- Exceptions and breakpoints are looked at together with whether the lane is active.
  cases active : snapshot.laneActive site ln with
  | false => rfl
  | true =>
      obtain ⟨pc, exception⟩ := same.action site ln inRange active
      rw [pc, exception, same.breakpoint site.dev _ (hasDevice_of_hasWarp (hasWarp_of_hasLane inRange))]

end ShowsSame

end Snapshot

namespace Provider

section

variable {provider other : Provider} (same : provider.snapshot.ShowsSame other.snapshot)
  (told : ∀ kernel, provider.clusterDim kernel = other.clusterDim kernel)
include same told

theorem identity_of_showsSame (inRange : provider.snapshot.hasWarp site = true) :
    provider.identity site = other.identity site := by
  have alike := same.warpValid_eq inRange
  rw [identity, identity]
  cases valid : provider.snapshot.warpValid site with
  | false => simp only [← alike, valid, Bool.false_eq_true, if_false]
  | true =>
      obtain ⟨grid, block, cluster⟩ := same.work site inRange valid
      have known := same.kernelAt_eq inRange valid
      simp only [← alike, valid, known, told, grid, block, cluster]

theorem hits_of_showsSame (query : Query) (inRange : provider.snapshot.hasWarp site = true) :
    query.hits provider site = query.hits other site := by
  have found (identity : Logical) :
      (ordinals provider.snapshot.shape.lanes).filterMap (query.hit? provider.snapshot site identity) =
        (ordinals other.snapshot.shape.lanes).filterMap (query.hit? other.snapshot site identity) := by
    rw [← same.shape]
    apply List.filterMap_congr
    intro ln member
    have onLane : provider.snapshot.hasLane site ln = true := by
      rw [Snapshot.hasLane, inRange, Bool.true_and, decide_eq_true_eq]
      exact mem_ordinals.mp member
    rw [Query.hit?, Query.hit?, same.threadAt_eq onLane, same.takesLane_eq onLane]
  rw [Query.hits, Query.hits, same.enters_eq inRange, same.consults_eq inRange,
    identity_of_showsSame same told inRange]
  simp only [found]

theorem evaluate_of_showsSame (query : Query) : provider.evaluate query = other.evaluate query :=
  evaluate_congr same.shape fun _ inRange => hits_of_showsSame same told query inRange

end

end Provider

def Warp.withoutLanes (warp : Warp) : Warp :=
  { warp with lanes := fun _ => {} }

theorem Warp.withoutLanes_eq {warp other : Warp} (same : warp.withoutLanes = other.withoutLanes) :
    warp.valid = other.valid ∧ warp.broken = other.broken ∧ warp.timestamp = other.timestamp ∧
      warp.grid = other.grid ∧ warp.block = other.block ∧ warp.cluster = other.cluster := by
  simpa [withoutLanes] using same

namespace Snapshot

structure SameUnits (snapshot other : Snapshot) : Prop where
  shape : snapshot.shape = other.shape
  clock : snapshot.clock = other.clock
  kernels : snapshot.kernels = other.kernels
  grid : snapshot.grid = other.grid
  sm : ∀ dev sm, snapshot.hasSm dev sm = true → snapshot.sm (dev, sm) = other.sm (dev, sm)
  breakpoint : ∀ dev pc, snapshot.hasDevice dev = true → snapshot.breakpoint (dev, pc) = other.breakpoint (dev, pc)
  warp : ∀ site, snapshot.hasWarp site = true → (snapshot.warp site).withoutLanes = (other.warp site).withoutLanes
  lane : ∀ site ln, snapshot.hasLane site ln = true → snapshot.lane site ln = other.lane site ln

namespace SameUnits

variable (same : snapshot.SameUnits other)
include same

theorem showsSame : snapshot.ShowsSame other := by
  refine ⟨same.shape, same.clock, same.kernels, ?_, same.sm, same.breakpoint, ?_, ?_, ?_, ?_, ?_⟩
  · intro key
    rw [same.grid]
  · intro site inRange
    obtain ⟨valid, broken, timestamp, -⟩ := Warp.withoutLanes_eq (same.warp site inRange)
    exact ⟨broken, timestamp, fun _ => valid⟩
  · intro site inRange _
    obtain ⟨-, -, -, work⟩ := Warp.withoutLanes_eq (same.warp site inRange)
    exact work
  · intro site ln inRange
    simp [same.lane site ln inRange]
  · intro site ln inRange _
    simp [same.lane site ln inRange]
  · intro site ln inRange _
    simp [same.lane site ln inRange]

/-- A query depends on nothing outside the shape of the snapshot. -/
theorem evaluate_eq (query : Query) : snapshot.provider.evaluate query = other.provider.evaluate query :=
  Provider.evaluate_of_showsSame same.showsSame same.showsSame.clusterDim_eq query

end SameUnits

end Snapshot

end LaneScope
