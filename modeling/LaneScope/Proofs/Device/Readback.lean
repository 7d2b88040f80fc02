import Mathlib
import LaneScope.Proofs.Coord.Acceptance
import LaneScope.Proofs.Device.Populate
import LaneScope.Proofs.Kernel.Table
import LaneScope.Proofs.Query.Lanes

/-!
What a warp is put to, read back by queries.  The warp keeps indices; the kernel, the cluster extent and the record that
a query reads them with are kept elsewhere.  Main statement: as long as these agree on the launch, the warp is put to
work unless its lanes are too many to count, and then a query for the lanes of the warp shows the block, the cluster and
the threads that the warp was given, each thread on one lane.
-/

namespace LaneScope

structure Dim3.IsAt (extent : Dim3) (place : Nat) (index : Dim3) : Prop where
  x_lt : index.x.toNat < extent.columns
  y_lt : index.y.toNat < extent.rows
  place_eq : index.x.toNat + extent.columns * (index.y.toNat + extent.rows * index.z.toNat) = place

namespace Dim3

variable {extent index : Dim3} {place : Nat}

theorem isAt_ofLinear (extent : Dim3) (fits : place < UInt32.size) : extent.IsAt place (ofLinear extent place) := by
  have toNat_ofNat {number : Nat} (below : number ≤ place) : (BitVec.ofNat 32 number).toNat = number :=
    BitVec.toNat_ofNat .. |>.trans (Nat.mod_eq_of_lt (Nat.lt_of_le_of_lt below fits))
  have x : (ofLinear extent place).x.toNat = place % extent.columns := toNat_ofNat (Nat.mod_le _ _)
  have y : (ofLinear extent place).y.toNat = place / extent.columns % extent.rows :=
    toNat_ofNat ((Nat.mod_le _ _).trans (Nat.div_le_self _ _))
  have z : (ofLinear extent place).z.toNat = place / (extent.columns * extent.rows) :=
    toNat_ofNat (Nat.div_le_self _ _)
  constructor
  · rw [x]
    exact Nat.mod_lt _ extent.columns_pos
  · rw [y]
    exact Nat.mod_lt _ extent.rows_pos
  · rw [x, y, z, ← Nat.div_div_eq_div_mul, Nat.mod_add_div, Nat.mod_add_div]

theorem IsAt.eq_ofLinear (isAt : extent.IsAt place index) : index = ofLinear extent place := by
  have x : place % extent.columns = index.x.toNat := by
    rw [← isAt.place_eq, Nat.add_mul_mod_self_left, Nat.mod_eq_of_lt isAt.x_lt]
  have plane : place / extent.columns = index.y.toNat + extent.rows * index.z.toNat := by
    rw [← isAt.place_eq, Nat.add_mul_div_left _ _ extent.columns_pos, Nat.div_eq_of_lt isAt.x_lt, Nat.zero_add]
  have y : place / extent.columns % extent.rows = index.y.toNat := by
    rw [plane, Nat.add_mul_mod_self_left, Nat.mod_eq_of_lt isAt.y_lt]
  have z : place / (extent.columns * extent.rows) = index.z.toNat := by
    rw [← Nat.div_div_eq_div_mul, plane, Nat.add_mul_div_left _ _ extent.rows_pos, Nat.div_eq_of_lt isAt.y_lt,
      Nat.zero_add]
  rw [ofLinear, x, y, z]
  simp only [BitVec.ofNat_toNat, BitVec.setWidth_eq]

end Dim3

structure Duty where
  site : Site
  kernel : Kernel
  block : Dim3
  first : BitVec 32
  active : BitVec 32

def Query.onWarp (site : Site) (select : Select) (comparator : Comparator) : Query where
  granularity := .lanes
  filter := site.coords
  select := select
  comparator := comparator

theorem Query.onWarp_accepts {site other : Site} {select : Select} {comparator : Comparator} {ln : Ordinal} :
    (onWarp site select comparator).filter.physical.accepts (.lane other.dev other.sm other.wp ln) = true ↔
      site = other := by
  obtain ⟨⟩ := site
  obtain ⟨⟩ := other
  simp [onWarp, Site.coords, Physical.accepts, Physical.lane, Field.accepts, Field.isWildcard, and_assoc]

namespace Duty

variable (duty : Duty)

structure Shows (ln : Ordinal) (coords : Coords) : Prop where
  place : coords.physical = .lane duty.site.dev duty.site.sm duty.site.wp ln
  kernel : coords.logical.kernel = .value duty.kernel.id
  grid : coords.logical.grid = .value duty.kernel.grid
  cluster : coords.logical.cluster =
    if duty.kernel.launch.clusterDim.hasVolume then .ofDim3 (duty.block.quotient duty.kernel.launch.clusterDim)
    else .inapplicable
  block : coords.logical.block = .ofDim3 duty.block
  thread : ∃ thread, coords.logical.thread = .ofDim3 thread ∧
    duty.kernel.launch.blockDim.IsAt (duty.first.toNat + ln.toNat) thread

def Reads (snapshot : Snapshot) (query : Query) (count : Nat) : Prop :=
  ∃ set, (snapshot.provider.evaluate query).outcome = .ok set ∧ set.coords.size = count ∧
    (set.coords.toList.map fun coords => coords.logical.thread).Nodup ∧
    ∀ coords, coords ∈ set.coords ↔ ∃ ln : Ordinal, ln.toNat < count ∧ duty.Shows ln coords

/-- Whether the snapshot has the warp, agrees on the launch wherever it keeps something of it, and has room for the threads
of the lanes. -/
structure Permitted (snapshot : Snapshot) : Prop where
  registered : snapshot.kernels.find? duty.kernel.id = some duty.kernel
  dev : duty.site.dev = duty.kernel.dev
  alone : ∀ other ∈ snapshot.kernels.kernels, other.dev = duty.kernel.dev → other.grid = duty.kernel.grid →
    other.id = duty.kernel.id
  recorded : (snapshot.grid (duty.kernel.dev, duty.kernel.grid)).map GridRecord.clusterDim =
    some duty.kernel.launch.clusterDim
  kept : ∀ clusterDim, duty.kernel.clusterDim = some clusterDim → clusterDim = duty.kernel.launch.clusterDim
  inRange : snapshot.hasWarp duty.site = true
  plane : duty.kernel.launch.blockDim.columns * duty.kernel.launch.blockDim.rows < UInt32.size
  placed : duty.first.toNat + snapshot.shape.lanes.toNat ≤ UInt32.size

structure ReadsBack (before after : Snapshot) : Prop where
  valid : ∀ comparator, duty.Reads after (.onWarp duty.site { valid := true } comparator) before.shape.lanes.toNat
  active : ∀ comparator, duty.Reads after (.onWarp duty.site { valid := true, active := true } comparator)
    (min before.shape.lanes.toNat duty.active.toNat)
  others : ∀ other, other ≠ duty.site → after.warp other = before.warp other
  kernels : after.kernels = before.kernels
  grids : after.grid = before.grid

def Takes (snapshot : Snapshot) (query : Query) (count : Nat) : Prop :=
  ∀ site ln, ln.toNat < snapshot.shape.lanes.toNat →
    (query.Admits snapshot site ln ↔ duty.site = site ∧ ln.toNat < count)

def coords (ln : Ordinal) : Coords where
  physical := .lane duty.site.dev duty.site.sm duty.site.wp ln
  logical :=
    { kernel := .value duty.kernel.id
      grid := .value duty.kernel.grid
      cluster := if duty.kernel.launch.clusterDim.hasVolume then
        .ofDim3 (duty.block.quotient duty.kernel.launch.clusterDim) else .inapplicable
      block := .ofDim3 duty.block
      thread := .ofDim3 (.ofLinear duty.kernel.launch.blockDim (duty.first.toNat + ln.toNat)) }

def work (snapshot : Snapshot) : Snapshot :=
  (snapshot.changeSm duty.site.dev duty.site.sm fun sm => { sm with valid := true }).changeWarp duty.site
    fun _ => snapshot.workingWarp duty.site.dev duty.kernel duty.block duty.first duty.active

variable {duty} {snapshot : Snapshot} {ln : Ordinal}

theorem shows_iff {coords : Coords} (fits : duty.first.toNat + ln.toNat < UInt32.size) :
    duty.Shows ln coords ↔ coords = duty.coords ln := by
  constructor
  · rintro ⟨place, kernel, grid, cluster, block, thread, threadEq, isAt⟩
    rw [isAt.eq_ofLinear] at threadEq
    obtain ⟨physical, logical⟩ := coords
    obtain ⟨⟩ := logical
    subst place kernel grid cluster block threadEq
    rfl
  · rintro rfl
    exact ⟨rfl, rfl, rfl, rfl, rfl, _, rfl, Dim3.isAt_ofLinear _ fits⟩

theorem warp_work : (duty.work snapshot).warp duty.site =
    snapshot.workingWarp duty.site.dev duty.kernel duty.block duty.first duty.active :=
  if_pos rfl

theorem runsLane_work : (duty.work snapshot).RunsLane duty.site ln := by
  rw [Snapshot.RunsLane, Snapshot.RunsWarp, Snapshot.lane, warp_work]
  exact ⟨⟨congrArg Sm.valid (if_pos rfl), rfl⟩, rfl⟩

theorem coords_injective {other : Ordinal} (same : duty.coords ln = duty.coords other) : ln = other :=
  (Site.eq_of_lane_eq (congrArg Coords.physical same)).2

theorem thread_injective {other : Ordinal} (fits : duty.first.toNat + ln.toNat < UInt32.size)
    (otherFits : duty.first.toNat + other.toNat < UInt32.size)
    (same : (duty.coords ln).logical.thread = (duty.coords other).logical.thread) : ln = other := by
  simp only [coords, Index3.ofDim3, Index3.axes.injEq, Field.value.injEq] at same
  have index : Dim3.ofLinear duty.kernel.launch.blockDim (duty.first.toNat + ln.toNat) =
      Dim3.ofLinear duty.kernel.launch.blockDim (duty.first.toNat + other.toNat) :=
    (Dim3.mk.injEq ..).mpr same
  have place := (Dim3.isAt_ofLinear duty.kernel.launch.blockDim fits).place_eq
  rw [index, (Dim3.isAt_ofLinear _ otherFits).place_eq] at place
  exact BitVec.eq_of_toNat_eq (Nat.add_left_cancel place.symm)

theorem actsLane_work : (duty.work snapshot).ActsLane duty.site ln ↔ ln.toNat < duty.active.toNat := by
  rw [Snapshot.ActsLane, Snapshot.lane, warp_work]
  simp [runsLane_work, Snapshot.workingWarp]

namespace Permitted

variable (permitted : duty.Permitted snapshot)
include permitted

theorem populate_eq_ok {after : Snapshot} :
    snapshot.populate duty.site duty.kernel.id duty.block duty.first duty.active = .ok after ↔
      snapshot.CountsLanes ∧ after = duty.work snapshot := by
  have fits : snapshot.threadsFit duty.kernel.launch.blockDim duty.first = true ↔ snapshot.CountsLanes :=
    (Snapshot.threadsFit_iff permitted.placed).trans (and_iff_left (.inr permitted.plane))
  simp [Snapshot.populate_eq_ok, permitted.registered, permitted.inRange, fits, work]

theorem kernelAt_work : (duty.work snapshot).kernelAt duty.site = some duty.kernel := by
  rw [Snapshot.kernelAt, warp_work, permitted.dev]
  exact KernelTable.findGrid_of_alone (KernelTable.find?_eq_some.mp permitted.registered).1 permitted.alone

/-- Whether the extent is kept with the kernel or looked up in the record, it is the one of the launch. -/
theorem clusterDim_work : (duty.work snapshot).provider.clusterDim duty.kernel = .ok duty.kernel.launch.clusterDim := by
  rw [Provider.clusterDim]
  cases kept : duty.kernel.clusterDim with
  | some clusterDim => exact congrArg Except.ok (permitted.kept clusterDim kept)
  | none =>
      obtain ⟨record, known, extent⟩ := Option.map_eq_some_iff.mp permitted.recorded
      simp [Snapshot.provider, Snapshot.lookup, work, Snapshot.changeSm, Snapshot.changeWarp, known, extent, Except.map]

theorem clusterOf_eq : snapshot.clusterOf duty.site.dev duty.kernel.grid duty.block =
    if duty.kernel.launch.clusterDim.hasVolume then duty.block.quotient duty.kernel.launch.clusterDim else .zero := by
  obtain ⟨record, known, extent⟩ := Option.map_eq_some_iff.mp permitted.recorded
  rw [Snapshot.clusterOf, permitted.dev, known, ← extent]

theorem address_eq : duty.kernel.address duty.kernel.launch.clusterDim ((duty.work snapshot).warp duty.site)
    (.ofDim3 ((duty.work snapshot).lane duty.site ln).thread) = (duty.coords ln).logical := by
  have cluster := permitted.clusterOf_eq
  rw [Snapshot.lane, warp_work]
  simp only [Kernel.address, Snapshot.workingWarp, coords, cluster]
  split <;> rfl

theorem resolves (ln : Ordinal) :
    (duty.work snapshot).provider.Resolves duty.site ln (duty.coords ln).logical := by
  rw [← permitted.address_eq]
  exact .lane runsLane_work permitted.kernelAt_work permitted.clusterDim_work

variable {select : Select} {comparator : Comparator} {count : Nat}

theorem exists_evaluate_onWarp (select : Select) (comparator : Comparator) :
    ∃ set, ((duty.work snapshot).provider.evaluate (.onWarp duty.site select comparator)).outcome = .ok set := by
  have pins : (Query.onWarp duty.site select comparator).Pins duty.site := ⟨rfl, rfl, rfl⟩
  apply pins.exists_evaluate (by simp [Query.isAnswerable, Query.onWarp, Granularity.isSingleLane])
  intro fault _ untold
  obtain ⟨identity, told, -⟩ := Provider.resolves_iff.mp (permitted.resolves 0)
  rw [untold] at told
  contradiction

/-- The answer lists the lanes below the count, since these are the ones that the query takes. -/
theorem mem_coords_iff (takes : duty.Takes (duty.work snapshot) (.onWarp duty.site select comparator) count)
    (bound : count ≤ snapshot.shape.lanes.toNat) {set : CoordSet}
    (lists : (duty.work snapshot).provider.ListsLanes (.onWarp duty.site select comparator) set) (coords : Coords) :
    coords ∈ set.coords ↔ ∃ ln : Ordinal, ln.toNat < count ∧ coords = duty.coords ln := by
  rw [lists.mem_iff]
  constructor
  · rintro ⟨site, ln, address, inRange, admitted, resolved, -, rfl⟩
    rw [Snapshot.hasLane, Bool.and_eq_true, decide_eq_true_eq] at inRange
    obtain ⟨rfl, below⟩ := (takes site ln inRange.2).mp admitted
    rw [resolved.unique (permitted.resolves ln)]
    exact ⟨ln, below, rfl⟩
  · rintro ⟨ln, below, rfl⟩
    have laneInRange := below.trans_le bound
    refine ⟨duty.site, ln, _, ?_, (takes _ _ laneInRange).mpr ⟨rfl, below⟩, permitted.resolves ln,
      Logical.wild_accepts _, rfl⟩
    rw [Snapshot.hasLane, Bool.and_eq_true, decide_eq_true_eq]
    exact ⟨permitted.inRange, laneInRange⟩

theorem reads_of_takes (takes : duty.Takes (duty.work snapshot) (.onWarp duty.site select comparator) count)
    (many : select.single = false) (bound : count ≤ snapshot.shape.lanes.toNat) :
    duty.Reads (duty.work snapshot) (.onWarp duty.site select comparator) count := by
  obtain ⟨set, answered⟩ := permitted.exists_evaluate_onWarp select comparator
  have lists := Provider.evaluate_listsLanes _ _ (.inl rfl) many answered
  have mem_iff := permitted.mem_coords_iff takes bound lists
  obtain ⟨last, rfl⟩ : ∃ last : Ordinal, last.toNat = count :=
    ⟨BitVec.ofNat 32 count, Nat.mod_eq_of_lt (bound.trans_lt (BitVec.isLt _))⟩
  have fits {ln : Ordinal} (below : ln.toNat < last.toNat) : duty.first.toNat + ln.toNat < UInt32.size := by
    have := permitted.placed
    omega
  -- Up to their order, the coordinates are those of the lanes below the count, one by one.
  have listed : set.coords.toList.Perm ((ordinals last).map duty.coords) := by
    have distinct : (ordinals last).Nodup := ordinals_distinct last
    rw [List.perm_ext_iff_of_nodup lists.nodup.of_map (distinct.map fun _ _ => coords_injective)]
    intro coords
    rw [Array.mem_toList_iff, mem_iff, List.mem_map]
    simp only [mem_ordinals, eq_comm]
  refine ⟨set, answered, ?_, ?_, ?_⟩
  · rw [← Array.length_toList, listed.length_eq]
    simp [ordinals]
  · rw [(listed.map _).nodup_iff, List.map_map]
    apply List.Nodup.map_on _ (ordinals_distinct last)
    intro ln member other otherMember same
    exact thread_injective (fits (mem_ordinals.mp member)) (fits (mem_ordinals.mp otherMember)) same
  · intro coords
    rw [mem_iff]
    exact exists_congr fun ln => and_congr_right fun below => (shows_iff (fits below)).symm

theorem readsBack : duty.ReadsBack snapshot (duty.work snapshot) where
  valid := by
    intro comparator
    refine permitted.reads_of_takes ?_ rfl (le_refl _)
    intro site ln inRange
    rw [Query.admits_iff_of_valid rfl, Query.onWarp_accepts]
    exact and_congr_right fun same => iff_of_true (same ▸ runsLane_work) inRange
  active := by
    intro comparator
    refine permitted.reads_of_takes ?_ rfl (min_le_left _ _)
    intro site ln inRange
    rw [Query.admits_iff_of_active rfl, Query.onWarp_accepts, lt_min_iff]
    apply and_congr_right
    rintro rfl
    rw [actsLane_work]
    exact (and_iff_right inRange).symm
  others := by
    intro other apart
    exact if_neg apart
  kernels := rfl
  grids := rfl

end Permitted

/-- Putting a warp to work succeeds unless the lanes are too many to count, and queries read back what it was put to. -/
theorem populate_readsBack (duty : Duty) (permitted : duty.Permitted snapshot) :
    ((∃ after, snapshot.populate duty.site duty.kernel.id duty.block duty.first duty.active = .ok after) ↔
      snapshot.CountsLanes) ∧
    ∀ after, snapshot.populate duty.site duty.kernel.id duty.block duty.first duty.active = .ok after →
      duty.ReadsBack snapshot after := by
  constructor
  · simp [permitted.populate_eq_ok]
  · intro after done
    obtain ⟨-, rfl⟩ := permitted.populate_eq_ok.mp done
    exact permitted.readsBack

/-- The threads after the first two, one of them active, in the fourth block and so in the second cluster. -/
theorem launching_readsBack : ∃ kernel, (Snapshot.launching 2 ⟨3, 2, 1⟩).kernels.find? 7 = some kernel ∧
    ∃ after, (Snapshot.launching 2 ⟨3, 2, 1⟩).populate ⟨0, 0, 0⟩ kernel.id ⟨3, 0, 0⟩ 2 1 = .ok after ∧
      (Duty.mk ⟨0, 0, 0⟩ kernel ⟨3, 0, 0⟩ 2 1).ReadsBack (Snapshot.launching 2 ⟨3, 2, 1⟩) after := by
  have returned (duty : Duty) (permitted : duty.Permitted (.launching 2 ⟨3, 2, 1⟩)) : ∃ after,
      (Snapshot.launching 2 ⟨3, 2, 1⟩).populate duty.site duty.kernel.id duty.block duty.first duty.active = .ok after ∧
        duty.ReadsBack (.launching 2 ⟨3, 2, 1⟩) after := by
    obtain ⟨returns, reads⟩ := populate_readsBack duty permitted
    obtain ⟨after, done⟩ := returns.mpr (by decide)
    exact ⟨after, done, reads after done⟩
  refine ⟨_, rfl, returned ⟨⟨0, 0, 0⟩, _, ⟨3, 0, 0⟩, 2, 1⟩ ?_⟩
  refine ⟨rfl, rfl, ?_, rfl, ?_, rfl, by decide, by decide⟩
  · intro other member _ _
    exact congrArg Kernel.id (List.mem_singleton.mp member)
  · intro clusterDim kept
    exact (Option.some.inj kept).symm

end Duty

end LaneScope
