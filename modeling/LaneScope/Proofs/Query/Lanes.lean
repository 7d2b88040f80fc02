import Mathlib
import LaneScope.Proofs.Coord.Acceptance
import LaneScope.Proofs.Query.Listing

/-!
The answer to a query for single lanes.  `Query.Admits` says which lanes a query asks for and `Provider.Resolves` which
logical address a lane has.  Main statement: the answer has exactly the lanes that are asked for, each once.
-/

namespace LaneScope

namespace Snapshot

variable (snapshot : Snapshot)

def RunsWarp (site : Site) : Prop :=
  (snapshot.sm (site.dev, site.sm)).valid = true ∧ (snapshot.warp site).valid = true

def RunsLane (site : Site) (ln : Ordinal) : Prop :=
  snapshot.RunsWarp site ∧ (snapshot.lane site ln).valid = true

def ActsLane (site : Site) (ln : Ordinal) : Prop :=
  snapshot.RunsLane site ln ∧ (snapshot.lane site ln).active = true

def IsCurrent (timestamp : Option Tick) : Prop :=
  ∀ tick, timestamp = some tick → snapshot.clock.toNat ≤ tick.toNat

end Snapshot

structure Query.Admits (query : Query) (snapshot : Snapshot) (site : Site) (ln : Ordinal) : Prop where
  place : query.filter.physical.accepts (.lane site.dev site.sm site.wp ln) = true
  reporting : query.select.exception = true ∨ query.select.smException = true →
    (snapshot.sm (site.dev, site.sm)).exception = true
  valid : query.select.valid = true → snapshot.RunsLane site ln
  thread : query.granularity = .threads → snapshot.RunsWarp site
  active : query.select.active = true → snapshot.ActsLane site ln
  trap : query.select.trap = true → (snapshot.warp site).broken = true ∧ snapshot.ActsLane site ln
  breakpoint : query.select.breakpoint = true →
    snapshot.ActsLane site ln ∧ snapshot.breakpoint (site.dev, (snapshot.lane site ln).pc) = true
  exception : query.select.exception = true →
    snapshot.ActsLane site ln ∧ (snapshot.lane site ln).exception ≠ none
  current : query.select.currentClock = true →
    snapshot.IsCurrent (snapshot.warp site).timestamp ∧ snapshot.IsCurrent (snapshot.lane site ln).timestamp

def Kernel.address (kernel : Kernel) (clusterDim : Dim3) (warp : Warp) (thread : Index3) : Logical where
  kernel := .value kernel.id
  grid := .value warp.grid
  cluster := if clusterDim.hasVolume then .ofDim3 warp.cluster else .inapplicable
  block := .ofDim3 warp.block
  thread := thread

inductive Provider.Resolves (provider : Provider) (site : Site) (ln : Ordinal) : Logical → Prop
  | idleWarp : ¬ provider.snapshot.RunsWarp site → Resolves provider site ln .invalid
  | idleLane {kernel clusterDim} : provider.snapshot.RunsWarp site → ¬ provider.snapshot.RunsLane site ln →
      provider.snapshot.kernelAt site = some kernel → provider.clusterDim kernel = .ok clusterDim →
      Resolves provider site ln (kernel.address clusterDim (provider.snapshot.warp site) .invalid)
  | lane {kernel clusterDim} : provider.snapshot.RunsLane site ln →
      provider.snapshot.kernelAt site = some kernel → provider.clusterDim kernel = .ok clusterDim →
      Resolves provider site ln (kernel.address clusterDim (provider.snapshot.warp site)
        (.ofDim3 (provider.snapshot.lane site ln).thread))

theorem Site.eq_of_lane_eq {site other : Site} {ln otherLn : Ordinal}
    (same : Physical.lane site.dev site.sm site.wp ln = .lane other.dev other.sm other.wp otherLn) :
    site = other ∧ ln = otherLn := by
  simp only [Physical.lane, Physical.mk.injEq, Field.value.injEq] at same
  obtain ⟨dev, sm, wp, sameLn⟩ := same
  obtain ⟨⟩ := site
  obtain ⟨⟩ := other
  exact ⟨(Site.mk.injEq ..).mpr ⟨dev, sm, wp⟩, sameLn⟩

namespace Snapshot

variable {snapshot : Snapshot} {site : Site} {ln : Ordinal}

theorem hasLane_iff : snapshot.hasLane site ln = true ↔
    site ∈ snapshot.sites ∧ ln ∈ ordinals snapshot.shape.lanes := by
  rw [hasLane, Bool.and_eq_true, decide_eq_true_eq, mem_sites, mem_ordinals]

theorem warpValid_iff : snapshot.warpValid site = true ↔ snapshot.RunsWarp site := by
  rw [warpValid, Bool.and_eq_true, RunsWarp]

theorem laneValid_iff : snapshot.laneValid site ln = true ↔ snapshot.RunsLane site ln := by
  rw [laneValid, Bool.and_eq_true, warpValid_iff, RunsLane]

theorem laneActive_iff : snapshot.laneActive site ln = true ↔ snapshot.ActsLane site ln := by
  rw [laneActive, Bool.and_eq_true, laneValid_iff, ActsLane]

theorem isStale_iff {timestamp : Option Tick} : snapshot.isStale timestamp = false ↔ snapshot.IsCurrent timestamp := by
  cases timestamp with
  | none => simp [isStale, IsCurrent]
  | some tick => simp [isStale, IsCurrent]

end Snapshot

theorem not_or_eq_true (condition demand : Bool) :
    (!condition || demand) = true ↔ (condition = true → demand = true) := by
  cases condition <;> simp

namespace Query

variable {query : Query} {snapshot : Snapshot} {site : Site} {ln : Ordinal}

theorem isSingleLane_of_fine (fine : query.granularity = .lanes ∨ query.granularity = .threads) :
    query.granularity.isSingleLane = true := by
  rcases fine with kind | kind <;> rw [kind] <;> rfl

theorem admits_iff (fine : query.granularity = .lanes ∨ query.granularity = .threads) :
    query.Admits snapshot site ln ↔
      query.enters snapshot site = true ∧ query.takesLane snapshot site ln = true := by
  have logical : query.granularity.isLogical = true ↔ query.granularity = .threads := by
    rcases fine with kind | kind <;> simp [kind, Granularity.isLogical]
  simp only [enters, opensDevice, opensSm, opensWarp, takesLane, Bool.and_eq_true, not_or_eq_true]
  simp only [Bool.or_eq_true, Bool.not_eq_true', Snapshot.warpValid_iff, Snapshot.laneValid_iff,
    Snapshot.laneActive_iff, Snapshot.isStale_iff, logical, Option.isSome_iff_ne_none]
  constructor
  · intro admitted
    have place := admitted.place
    simp only [Physical.accepts, Physical.lane, Bool.and_eq_true] at place
    obtain ⟨⟨⟨dev, sm⟩, wp⟩, lane⟩ := place
    refine ⟨⟨⟨dev, ⟨sm, admitted.reporting⟩, ?_⟩, ⟨⟨wp, ?_⟩, ?_⟩, ?_⟩,
      ⟨⟨⟨⟨⟨lane, admitted.valid⟩, admitted.active⟩, ?_⟩, admitted.breakpoint⟩, admitted.exception⟩, ?_⟩
    · intro selected
      exact (admitted.valid selected).1.1
    · rintro (selected | kind)
      · exact (admitted.valid selected).1
      · exact admitted.thread kind
    · intro selected
      exact (admitted.current selected).1
    · intro selected
      exact (admitted.trap selected).1
    · intro selected
      exact (admitted.current selected).2
    · intro selected
      exact (admitted.trap selected).2
  · rintro ⟨⟨⟨dev, ⟨sm, reporting⟩, smValid⟩, ⟨⟨wp, runs⟩, warpCurrent⟩, broken⟩,
      ⟨⟨⟨⟨⟨lane, valid⟩, active⟩, laneCurrent⟩, breakpoint⟩, exception⟩, trap⟩
    exact {
      place := by simp only [Physical.accepts, Physical.lane, dev, sm, wp, lane, Bool.and_self]
      reporting := reporting
      valid := valid
      thread := fun kind => runs (.inr kind)
      active := active
      trap := fun selected => ⟨broken selected, trap selected⟩
      breakpoint := breakpoint
      exception := exception
      current := fun selected => ⟨warpCurrent selected, laneCurrent selected⟩
    }

theorem admits_iff_of_valid (select : query.select = { valid := true }) : query.Admits snapshot site ln ↔
    query.filter.physical.accepts (.lane site.dev site.sm site.wp ln) = true ∧ snapshot.RunsLane site ln := by
  constructor
  · intro admitted
    exact ⟨admitted.place, admitted.valid (by rw [select])⟩
  · rintro ⟨place, runs⟩
    constructor <;> simp [select, place, runs, runs.1]

theorem admits_iff_of_active (select : query.select = { valid := true, active := true }) :
    query.Admits snapshot site ln ↔
      query.filter.physical.accepts (.lane site.dev site.sm site.wp ln) = true ∧ snapshot.ActsLane site ln := by
  constructor
  · intro admitted
    exact ⟨admitted.place, admitted.active (by rw [select])⟩
  · rintro ⟨place, acts⟩
    constructor <;> simp [select, place, acts, acts.1, acts.1.1]

end Query

namespace Provider

variable {provider : Provider} {site : Site} {ln : Ordinal} {address : Logical}

theorem identity_eq_ok {identity : Logical} : provider.identity site = .ok identity ↔
    (¬ provider.snapshot.RunsWarp site ∧ identity = .invalid) ∨
      (provider.snapshot.RunsWarp site ∧ ∃ kernel clusterDim, provider.snapshot.kernelAt site = some kernel ∧
        provider.clusterDim kernel = .ok clusterDim ∧
        identity = kernel.address clusterDim (provider.snapshot.warp site) .wildcard) := by
  rw [← Snapshot.warpValid_iff, Provider.identity]
  cases provider.snapshot.warpValid site with
  | false => simp [eq_comm]
  | true =>
      cases known : provider.snapshot.kernelAt site with
      | none => simp
      | some kernel =>
          cases told : provider.clusterDim kernel with
          | error fault => simp [told]
          | ok clusterDim =>
              simp [told, Kernel.address]
              exact eq_comm

theorem resolves_iff : provider.Resolves site ln address ↔
    ∃ identity, provider.identity site = .ok identity ∧
      address = { identity with thread := provider.snapshot.threadAt site ln } := by
  have runningThread (runs : provider.snapshot.RunsLane site ln) :
      provider.snapshot.threadAt site ln = .ofDim3 (provider.snapshot.lane site ln).thread := by
    rw [Snapshot.threadAt, if_pos (Snapshot.laneValid_iff.mpr runs)]
  have idleThread (idle : ¬ provider.snapshot.RunsLane site ln) :
      provider.snapshot.threadAt site ln = .invalid := by
    rw [Snapshot.threadAt, if_neg (fun valid => idle (Snapshot.laneValid_iff.mp valid))]
  constructor
  · intro resolved
    cases resolved with
    | idleWarp idle =>
        refine ⟨.invalid, identity_eq_ok.mpr (.inl ⟨idle, rfl⟩), ?_⟩
        rw [idleThread fun runs => idle runs.1]
        rfl
    | idleLane runs idle known told =>
        refine ⟨_, identity_eq_ok.mpr (.inr ⟨runs, _, _, known, told, rfl⟩), ?_⟩
        rw [idleThread idle]
        rfl
    | lane runs known told =>
        refine ⟨_, identity_eq_ok.mpr (.inr ⟨runs.1, _, _, known, told, rfl⟩), ?_⟩
        rw [runningThread runs]
        rfl
  · rintro ⟨identity, obtained, rfl⟩
    rcases identity_eq_ok.mp obtained with ⟨idle, rfl⟩ | ⟨runs, kernel, clusterDim, known, told, rfl⟩
    · rw [idleThread fun runs => idle runs.1]
      exact .idleWarp idle
    · by_cases lane : provider.snapshot.RunsLane site ln
      · rw [runningThread lane]
        exact .lane lane known told
      · rw [idleThread lane]
        exact .idleLane runs lane known told

theorem Resolves.unique {other : Logical} (resolved : provider.Resolves site ln address)
    (also : provider.Resolves site ln other) : address = other := by
  obtain ⟨identity, told, rfl⟩ := resolves_iff.mp resolved
  obtain ⟨again, toldAgain, rfl⟩ := resolves_iff.mp also
  rw [Except.ok.inj (told.symm.trans toldAgain)]

theorem Resolves.fullyDefined (resolved : provider.Resolves site ln address) : address.fullyDefined = true := by
  have of_thread (kernel : Kernel) (clusterDim : Dim3) (warp : Warp) {thread : Index3}
      (defined : thread.hasWildcard = false) : (kernel.address clusterDim warp thread).fullyDefined = true := by
    cases volume : clusterDim.hasVolume <;>
      simp [Kernel.address, Logical.fullyDefined, Field.isWildcard, volume, defined]
  cases resolved with
  | idleWarp => rfl
  | idleLane => exact of_thread _ _ _ rfl
  | lane => exact of_thread _ _ _ rfl

end Provider

namespace Query

variable {query : Query} {provider : Provider}

/-- A warp that was read for one of its lanes has told its identity. -/
theorem exists_resolves_of_admits (fine : query.granularity = .lanes ∨ query.granularity = .threads) {site : Site}
    {ln : Ordinal} (read : query.Reads provider site) (admitted : query.Admits provider.snapshot site ln) :
    ∃ address, provider.Resolves site ln address := by
  have entered := ((admits_iff fine).mp admitted).1
  rcases hits_eq_ok.mp read with ⟨shut, -⟩ | ⟨-, identity, told, -⟩
  · rw [entered] at shut
    contradiction
  · exact ⟨_, Provider.resolves_iff.mpr ⟨identity, told, rfl⟩⟩

structure Pins (query : Query) (site : Site) : Prop where
  dev : query.filter.physical.dev = .value site.dev
  sm : query.filter.physical.sm = .value site.sm
  wp : query.filter.physical.wp = .value site.wp

theorem Pins.eq_of_enters {snapshot : Snapshot} {site other : Site} (pins : query.Pins site)
    (entered : query.enters snapshot other = true) : other = site := by
  simp only [enters, opensDevice, opensSm, opensWarp, pins.dev, pins.sm, pins.wp, Bool.and_eq_true] at entered
  obtain ⟨⟨dev, ⟨sm, -⟩, -⟩, ⟨⟨wp, -⟩, -⟩, -⟩ := entered
  obtain ⟨⟩ := site
  obtain ⟨⟩ := other
  simp_all [Field.accepts, Field.isWildcard]

/-- No other warp can spoil the answer. -/
theorem Pins.exists_evaluate {site : Site} (pins : query.Pins site) (answerable : query.isAnswerable = true)
    (told : ∀ fault, provider.snapshot.hasWarp site = true → provider.identity site ≠ .error fault) :
    ∃ set, (provider.evaluate query).outcome = .ok set := by
  refine ⟨_, Provider.evaluate_of_reads answerable ?_⟩
  intro other member
  by_cases entered : query.enters provider.snapshot other = true
  · obtain rfl := pins.eq_of_enters entered
    cases identity : provider.identity other with
    | error fault => exact (told fault (Snapshot.mem_sites.mp member) identity).elim
    | ok address => exact reads_of_identity identity
  · exact reads_of_ok (hits_eq_ok.mpr (.inl ⟨Bool.eq_false_iff.mpr entered, rfl⟩))

theorem hit?_eq_some {snapshot : Snapshot} {site : Site} {identity : Logical} {ln : Ordinal} {hit : Coords} :
    query.hit? snapshot site identity ln = some hit ↔
      query.takesLane snapshot site ln = true ∧
        query.filter.logical.thread.accepts (snapshot.threadAt site ln) = true ∧
        hit = ⟨.lane site.dev site.sm site.wp ln, { identity with thread := snapshot.threadAt site ln }⟩ := by
  simp only [hit?, Option.ite_none_right_eq_some, Option.some.injEq, Bool.and_eq_true, and_assoc]
  exact and_congr_right fun _ => and_congr_right fun _ => eq_comm

theorem mem_hits_of_fine (fine : query.granularity = .lanes ∨ query.granularity = .threads) {site : Site}
    {found : List Coords} (read : (query.hits provider site).outcome = .ok found) {coords : Coords} :
    coords ∈ found ↔ ∃ ln address, ln ∈ ordinals provider.snapshot.shape.lanes ∧
      query.Admits provider.snapshot site ln ∧ provider.Resolves site ln address ∧
      query.filter.logical.accepts address = true ∧ coords = ⟨.lane site.dev site.sm site.wp ln, address⟩ := by
  rw [mem_hits read]
  constructor
  · rintro ⟨entered, identity, told, accepted, ln, lnMember, found⟩
    obtain ⟨taken, threadAccepted, rfl⟩ := hit?_eq_some.mp found
    refine ⟨ln, _, lnMember, (admits_iff fine).mpr ⟨entered, taken⟩,
      Provider.resolves_iff.mpr ⟨identity, told, rfl⟩, ?_, rfl⟩
    rw [Logical.accepts, Bool.and_eq_true]
    exact ⟨accepted, threadAccepted⟩
  · rintro ⟨ln, address, lnMember, admitted, resolved, accepted, rfl⟩
    obtain ⟨entered, taken⟩ := (admits_iff fine).mp admitted
    obtain ⟨identity, told, rfl⟩ := Provider.resolves_iff.mp resolved
    rw [Logical.accepts, Bool.and_eq_true] at accepted
    exact ⟨entered, identity, told, accepted.1, ln, lnMember, hit?_eq_some.mpr ⟨taken, accepted.2, rfl⟩⟩

end Query

namespace Provider

variable (provider : Provider) (query : Query)

def Qualifies (coords : Coords) : Prop :=
  ∃ site ln address, provider.snapshot.hasLane site ln = true ∧ query.Admits provider.snapshot site ln ∧
    provider.Resolves site ln address ∧ query.filter.logical.accepts address = true ∧
    coords = ⟨.lane site.dev site.sm site.wp ln, address⟩

structure ListsLanes (set : CoordSet) : Prop where
  mem_iff : ∀ coords, coords ∈ set.coords ↔ provider.Qualifies query coords
  resolved : ∀ site ln, provider.snapshot.hasLane site ln = true → query.Admits provider.snapshot site ln →
    ∃ address, provider.Resolves site ln address
  nodup : (set.coords.toList.map Coords.physical).Nodup

variable {provider query}

/-- A warp that was not read lists nothing, and none of its lanes has a logical address. -/
theorem mem_listing_iff (fine : query.granularity = .lanes ∨ query.granularity = .threads) {coords : Coords} :
    coords ∈ query.listing provider ↔ provider.Qualifies query coords := by
  rw [Query.listing, List.mem_flatMap]
  constructor
  · rintro ⟨site, siteMember, member⟩
    obtain ⟨ln, address, lnMember, found⟩ :=
      (Query.mem_hits_of_fine fine (Query.reads_of_mem_listed member)).mp member
    exact ⟨site, ln, address, Snapshot.hasLane_iff.mpr ⟨siteMember, lnMember⟩, found⟩
  · rintro ⟨site, ln, address, inRange, admitted, resolved, found⟩
    obtain ⟨siteMember, lnMember⟩ := Snapshot.hasLane_iff.mp inRange
    obtain ⟨identity, told, -⟩ := resolves_iff.mp resolved
    exact ⟨site, siteMember, (Query.mem_hits_of_fine fine (Query.reads_of_identity told)).mpr
      ⟨ln, address, lnMember, admitted, resolved, found⟩⟩

theorem mem_of_evaluate_iff (fine : query.granularity = .lanes ∨ query.granularity = .threads)
    (many : query.select.single = false) {set : CoordSet} (answered : (provider.evaluate query).outcome = .ok set)
    {coords : Coords} : coords ∈ set.coords ↔ provider.Qualifies query coords := by
  obtain ⟨-, rfl⟩ := lanes_of_evaluate (Query.isSingleLane_of_fine fine) many answered
  rw [CoordSet.mem_collect, List.mem_reverse, mem_listing_iff fine]

theorem evaluate_listsLanes (provider : Provider) (query : Query)
    (fine : query.granularity = .lanes ∨ query.granularity = .threads)
    (many : query.select.single = false) {set : CoordSet} (answered : (provider.evaluate query).outcome = .ok set) :
    provider.ListsLanes query set := by
  obtain ⟨read, rfl⟩ := lanes_of_evaluate (Query.isSingleLane_of_fine fine) many answered
  refine ⟨fun _ => mem_of_evaluate_iff fine many answered, ?_, ?_⟩
  · intro site ln inRange admitted
    obtain ⟨siteMember, -⟩ := Snapshot.hasLane_iff.mp inRange
    exact Query.exists_resolves_of_admits fine (read site siteMember) admitted
  · have reversed := List.reverse_perm (query.listing provider)
    have permuted := (CoordSet.collect_perm query.comparator
      (reversed.nodup_iff.mpr (query.listing_nodup provider))).trans reversed
    exact (permuted.map Coords.physical).nodup_iff.mpr (query.listing_physical_nodup provider)

theorem head?_listing (fine : query.granularity = .lanes ∨ query.granularity = .threads) {first : Coords}
    (heads : (query.listing provider).head? = some first) : provider.Qualifies query first ∧
      ∀ other, provider.Qualifies query other → (first.physical.order other.physical).isLE = true := by
  refine ⟨(mem_listing_iff fine).mp (List.mem_of_head? heads), ?_⟩
  intro other qualified
  obtain ⟨rest, listed⟩ := List.head?_eq_some_iff.mp heads
  have ascending := query.listing_ascending provider
  have member := (mem_listing_iff fine).mpr qualified
  rw [listed] at ascending member
  rcases List.mem_cons.mp member with rfl | later
  · rw [Physical.order_self]
    rfl
  · rw [(List.pairwise_cons.mp ascending).1 other later]
    rfl

theorem head?_listing_eq_none (fine : query.granularity = .lanes ∨ query.granularity = .threads) :
    (query.listing provider).head? = none ↔ ∀ coords, ¬ provider.Qualifies query coords := by
  rw [List.head?_eq_none_iff, List.eq_nil_iff_forall_not_mem]
  exact forall_congr' fun coords => not_congr (mem_listing_iff fine)

end Provider

/-- A device where the first warp that runs the kernel has no active lane. -/
def Snapshot.halfIdle : Snapshot :=
  let launched := (Snapshot.ofShape ⟨1, 2, 2, 2⟩).launch
    { kernel := 7, dev := 0, grid := 3, moduleId := 1, entry := 0x40, gridDim := ⟨1, 1, 1⟩, blockDim := ⟨6, 1, 1⟩,
      clusterDim := .zero, type := .application, origin := .cpu, parent := none }
  let warps : List (Site × BitVec 32 × BitVec 32) := [(⟨0, 0, 1⟩, 0, 0), (⟨0, 1, 0⟩, 2, 1), (⟨0, 1, 1⟩, 4, 2)]
  warps.foldl
    (fun snapshot (site, first, active) => (snapshot.populate site 7 .zero first active).toOption.getD snapshot) launched

theorem Provider.halfIdle_listsLanes :
    ∃ set, (Snapshot.halfIdle.provider.evaluate { granularity := .lanes, select := { active := true } }).outcome =
        .ok set ∧ set.coords.size = 3 ∧
      Snapshot.halfIdle.provider.ListsLanes { granularity := .lanes, select := { active := true } } set := by
  refine ⟨_, by cbv, by rfl, ?_⟩
  exact Provider.evaluate_listsLanes _ _ (.inl rfl) rfl (by cbv)

end LaneScope
