import Mathlib
import LaneScope.Proofs.Query.Lanes
import LaneScope.Proofs.Session.Noninterference

/-!
Exits of kernels.  Answers name kernels by their identifiers, while an exit retires warps by the grid that they are on.
As long as no two kernels share a grid of a device, both come to the same.  Main statement: an exit takes the lanes of
its kernel out of the answers of all queries for lanes at work, and nothing else changes.
-/

namespace LaneScope

def Coords.isOf (coords : Coords) (id : KernelId) : Bool :=
  coords.logical.kernel == .value id

def CoordSet.without (set : CoordSet) (id : KernelId) : CoordSet :=
  { set with coords := set.coords.filter fun coords => !coords.isOf id }

def Snapshot.WorksFor (snapshot : Snapshot) (kernel : Kernel) (site : Site) : Prop :=
  (snapshot.warp site).valid = true ∧ snapshot.kernelAt site = some kernel

structure Query.IsForWorkers (query : Query) : Prop where
  many : query.select.single = false
  working : query.granularity = .threads ∨ (query.granularity = .lanes ∧ query.select.valid = true)

structure Session.Exits (before after : Session) (kernel : Kernel) : Prop where
  unregistered : after.snapshot.kernels.find? kernel.id = none
  registered : ∀ id ≠ kernel.id, after.snapshot.kernels.find? id = before.snapshot.kernels.find? id
  terminated : after.snapshot.grid (kernel.dev, kernel.grid) =
    (before.snapshot.grid (kernel.dev, kernel.grid)).map fun record => { record with status := .terminated }
  grid : ∀ key ≠ (kernel.dev, kernel.grid), after.snapshot.grid key = before.snapshot.grid key
  retired : ∀ site, before.snapshot.WorksFor kernel site →
    after.snapshot.warp site = (before.snapshot.warp site).retire
  warp : ∀ site, ¬ before.snapshot.WorksFor kernel site → after.snapshot.warp site = before.snapshot.warp site
  sm : after.snapshot.sm = before.snapshot.sm
  breakpoint : after.snapshot.breakpoint = before.snapshot.breakpoint
  clock : after.snapshot.clock = before.snapshot.clock
  shape : after.snapshot.shape = before.snapshot.shape
  functions : after.snapshot.functions = before.snapshot.functions
  gridQueries : after.snapshot.gridQueries = before.snapshot.gridQueries
  outage : after.outage = before.outage
  answers : ∀ query : Query, query.IsForWorkers → ∀ set, (before.provider.evaluate query).outcome = .ok set →
    (after.provider.evaluate query).outcome = .ok (set.without kernel.id)

theorem CoordSet.collect_filter (comparator : Comparator) (listing : List Coords) (id : KernelId) :
    collect comparator (listing.filter fun coords => !coords.isOf id) = (collect comparator listing).without id := by
  have coords : (collect comparator (listing.filter fun coords => !coords.isOf id)).coords =
      ((collect comparator listing).without id).coords := by
    apply Array.toList_inj.mp
    apply toList_collect_of_ascending
    · rw [without, Array.toList_filter]
      exact (collect_ascending comparator listing).filter _
    · intro coords
      simp only [without, Array.toList_filter, List.mem_filter, Array.mem_toList_iff, mem_collect]
  exact congrArg (CoordSet.mk · comparator) coords

namespace Snapshot

variable {snapshot : Snapshot} {kernel : Kernel} {site : Site}

theorem worksFor_iff (distinct : snapshot.kernels.GridsDistinct) (member : kernel ∈ snapshot.kernels.kernels) :
    snapshot.WorksFor kernel site ↔
      site.dev = kernel.dev ∧ (snapshot.warp site).valid = true ∧ (snapshot.warp site).grid = kernel.grid := by
  rw [WorksFor, kernelAt, KernelTable.findGrid_eq_some distinct]
  constructor
  · rintro ⟨valid, -, dev, grid⟩
    exact ⟨dev.symm, valid, grid.symm⟩
  · rintro ⟨dev, valid, grid⟩
    exact ⟨valid, member, dev.symm, grid.symm⟩

theorem warp_exitKernel_of_worksFor (distinct : snapshot.kernels.GridsDistinct)
    (member : kernel ∈ snapshot.kernels.kernels) (works : snapshot.WorksFor kernel site) :
    (snapshot.exitKernel kernel).warp site = (snapshot.warp site).retire :=
  if_pos ((worksFor_iff distinct member).mp works)

theorem warp_exitKernel_of_not_worksFor (distinct : snapshot.kernels.GridsDistinct)
    (member : kernel ∈ snapshot.kernels.kernels) (apart : ¬ snapshot.WorksFor kernel site) :
    (snapshot.exitKernel kernel).warp site = snapshot.warp site :=
  if_neg (mt (worksFor_iff distinct member).mpr apart)

theorem grid_exitKernel_self (snapshot : Snapshot) (kernel : Kernel) :
    (snapshot.exitKernel kernel).grid (kernel.dev, kernel.grid) =
      (snapshot.grid (kernel.dev, kernel.grid)).map fun record => { record with status := .terminated } :=
  if_pos rfl

theorem grid_exitKernel_of_ne {key : Ordinal × GridId} (different : key ≠ (kernel.dev, kernel.grid)) :
    (snapshot.exitKernel kernel).grid key = snapshot.grid key :=
  if_neg different

theorem clusterDim_exitKernel (snapshot : Snapshot) (kernel : Kernel) (key : Ordinal × GridId) :
    ((snapshot.exitKernel kernel).grid key).map GridRecord.clusterDim =
      (snapshot.grid key).map GridRecord.clusterDim := by
  by_cases same : key = (kernel.dev, kernel.grid)
  · rw [same, grid_exitKernel_self, Option.map_map]
    rfl
  · rw [grid_exitKernel_of_ne same]

theorem kernelAt_exitKernel (distinct : snapshot.kernels.GridsDistinct) (member : kernel ∈ snapshot.kernels.kernels)
    {other : Kernel} (known : snapshot.kernelAt site = some other) (apart : ¬ snapshot.WorksFor kernel site)
    (valid : (snapshot.warp site).valid = true) :
    other.id ≠ kernel.id ∧ (snapshot.exitKernel kernel).kernelAt site = some other := by
  obtain ⟨otherMember, dev, grid⟩ := (KernelTable.findGrid_eq_some distinct).mp known
  have different : other.id ≠ kernel.id := by
    intro same
    obtain rfl := KernelTable.eq_of_id_eq otherMember member same
    exact apart ⟨valid, known⟩
  refine ⟨different, ?_⟩
  rw [kernelAt, warp_exitKernel_of_not_worksFor distinct member apart]
  exact (KernelTable.findGrid_eq_some (distinct.erase kernel.id)).mpr
    ⟨KernelTable.mem_erase.mpr ⟨otherMember, different⟩, dev, grid⟩

end Snapshot

namespace Query.IsForWorkers

variable {query : Query} {snapshot : Snapshot} {site : Site}

theorem isSingleLane (workers : query.IsForWorkers) : query.granularity.isSingleLane = true := by
  rcases workers.working with kind | ⟨kind, -⟩ <;> rw [kind] <;> rfl

theorem runsWarp (workers : query.IsForWorkers) (entered : query.enters snapshot site = true) :
    snapshot.RunsWarp site := by
  simp only [enters, opensWarp, Bool.and_eq_true, not_or_eq_true] at entered
  obtain ⟨-, ⟨⟨-, demanded⟩, -⟩, -⟩ := entered
  apply Snapshot.warpValid_iff.mp
  apply demanded
  rw [Bool.or_eq_true]
  rcases workers.working with kind | ⟨-, valid⟩
  · exact .inr (by rw [kind]; rfl)
  · exact .inl valid

end Query.IsForWorkers

namespace Provider

variable {before after : Provider} {query : Query} {kernel : Kernel} {site : Site} {hit : Coords}

/-- A lane at work is listed under the identifier of the kernel that its warp works for. -/
theorem exists_worksFor (workers : query.IsForWorkers) (listed : hit ∈ query.listed before site) :
    ∃ kernel, before.snapshot.WorksFor kernel site ∧ hit.logical.kernel = .value kernel.id := by
  obtain ⟨entered, identity, told, -, ln, -, found⟩ := Query.mem_listed.mp listed
  obtain ⟨-, -, rfl⟩ := Query.hit?_eq_some.mp found
  have runs := workers.runsWarp entered
  rcases identity_eq_ok.mp told with ⟨idle, -⟩ | ⟨-, kernel, clusterDim, known, -, rfl⟩
  · exact (idle runs).elim
  · exact ⟨kernel, ⟨runs.2, known⟩, rfl⟩

theorem isOf_iff (workers : query.IsForWorkers) (member : kernel ∈ before.snapshot.kernels.kernels)
    (listed : hit ∈ query.listed before site) :
    hit.isOf kernel.id = true ↔ before.snapshot.WorksFor kernel site := by
  obtain ⟨other, works, named⟩ := exists_worksFor workers listed
  rw [Coords.isOf, named, beq_iff_eq, Field.value.injEq]
  constructor
  · intro same
    have otherMember := List.mem_of_find?_eq_some works.2
    rwa [← KernelTable.eq_of_id_eq otherMember member same]
  · intro also
    rw [Option.some.inj (works.2.symm.trans also.2)]

section

variable (distinct : before.snapshot.kernels.GridsDistinct) (member : kernel ∈ before.snapshot.kernels.kernels)
  (exited : after.snapshot = before.snapshot.exitKernel kernel)
include distinct member exited

theorem hits_of_worksFor (workers : query.IsForWorkers) (works : before.snapshot.WorksFor kernel site) :
    (query.hits after site).outcome = .ok [] := by
  refine Query.hits_eq_ok.mpr (.inl ⟨?_, rfl⟩)
  rw [Bool.eq_false_iff]
  intro entered
  have valid := (workers.runsWarp entered).2
  rw [exited, Snapshot.warp_exitKernel_of_worksFor distinct member works] at valid
  contradiction

theorem sameWarp_of_not_worksFor (apart : ¬ before.snapshot.WorksFor kernel site) :
    after.snapshot.SameWarp before.snapshot site := by
  rw [exited]
  exact ⟨rfl, rfl, Snapshot.warp_exitKernel_of_not_worksFor distinct member apart, fun _ => rfl⟩

variable (told : ∀ other, after.clusterDim other = before.clusterDim other)
include told

theorem identity_of_not_worksFor (apart : ¬ before.snapshot.WorksFor kernel site) {identity : Logical}
    (known : before.identity site = .ok identity) : after.identity site = .ok identity := by
  have same := sameWarp_of_not_worksFor distinct member exited apart
  rw [identity_eq_ok, ← Snapshot.warpValid_iff, same.warpValid_eq, Snapshot.warpValid_iff, same.warp]
  rcases identity_eq_ok.mp known with idle | ⟨running, other, clusterDim, otherKnown, dim, rfl⟩
  · exact .inl idle
  · obtain ⟨-, stays⟩ := Snapshot.kernelAt_exitKernel distinct member otherKnown apart running.2
    rw [← exited] at stays
    exact .inr ⟨running, other, clusterDim, stays, (told other).trans dim, rfl⟩

theorem hits_of_not_worksFor (apart : ¬ before.snapshot.WorksFor kernel site) {found : List Coords}
    (read : (query.hits before site).outcome = .ok found) : (query.hits after site).outcome = .ok found := by
  have same := sameWarp_of_not_worksFor distinct member exited apart
  have shape : after.snapshot.shape = before.snapshot.shape := by
    rw [exited]
    rfl
  rw [Query.hits_eq_ok, same.enters_eq, shape]
  rcases Query.hits_eq_ok.mp read with shut | ⟨opened, identity, known, rfl⟩
  · exact .inl shut
  · refine .inr ⟨opened, identity, identity_of_not_worksFor distinct member exited told apart known, ?_⟩
    rw [same.hit?_eq]

theorem hits_of_exit (workers : query.IsForWorkers) (read : query.Reads before site) :
    (query.hits after site).outcome = .ok ((query.listed before site).filter fun hit => !hit.isOf kernel.id) := by
  by_cases works : before.snapshot.WorksFor kernel site
  · have none : (query.listed before site).filter (fun hit => !hit.isOf kernel.id) = [] := by
      apply List.filter_eq_nil_iff.mpr
      intro hit listed
      simp [(isOf_iff workers member listed).mpr works]
    rw [none]
    exact hits_of_worksFor distinct member exited workers works
  · have all : (query.listed before site).filter (fun hit => !hit.isOf kernel.id) = query.listed before site := by
      apply List.filter_eq_self.mpr
      intro hit listed
      simp [mt (isOf_iff workers member listed).mp works]
    rw [all]
    exact hits_of_not_worksFor distinct member exited told works read

theorem evaluate_of_exit (workers : query.IsForWorkers) {set : CoordSet}
    (answered : (before.evaluate query).outcome = .ok set) :
    (after.evaluate query).outcome = .ok (set.without kernel.id) := by
  have ⟨answerable, _⟩ := evaluate_eq_ok.mp answered
  obtain ⟨reads, rfl⟩ := lanes_of_evaluate workers.isSingleLane workers.many answered
  have sites : after.snapshot.sites = before.snapshot.sites := by
    rw [exited]
    rfl
  have hits : ∀ site ∈ before.snapshot.sites, (query.hits after site).outcome =
      .ok ((query.listed before site).filter fun hit => !hit.isOf kernel.id) :=
    fun site siteMember => hits_of_exit distinct member exited told workers (reads site siteMember)
  have listing : query.listing after = (query.listing before).filter fun hit => !hit.isOf kernel.id := by
    rw [Query.listing, Query.listing, List.filter_flatMap, sites]
    apply List.flatMap_congr
    intro site siteMember
    simp only [Query.listed, hits site siteMember]
  have read : ∀ site ∈ after.snapshot.sites, query.Reads after site := by
    rw [sites]
    exact fun site siteMember => Query.reads_of_ok (hits site siteMember)
  rw [evaluate_of_reads answerable read, Query.foldl_report_of_isSingleLane workers.isSingleLane workers.many,
    List.append_nil, listing, ← List.filter_reverse, CoordSet.collect_filter]

end

end Provider

namespace Session

variable {session : Session} {kernel : Kernel}

theorem clusterDim_exitKernel (session : Session) (kernel other : Kernel) :
    (session.withSnapshot (session.snapshot.exitKernel kernel)).provider.clusterDim other =
      session.provider.clusterDim other := by
  rw [Provider.clusterDim, Provider.clusterDim]
  split
  · rfl
  · cases linked : session.outage with
    | some reason => simp only [provider, withSnapshot, linked]
    | none =>
        have recorded := session.snapshot.clusterDim_exitKernel kernel (other.dev, other.grid)
        simp only [provider, withSnapshot, linked, Snapshot.provider, Snapshot.lookup]
        rcases KernelTable.both_of_map_eq recorded with ⟨absent, still⟩ | ⟨record, later, found, still, same⟩
        · rw [absent, still]
        · rw [found, still]
          exact congrArg Except.ok same

theorem perform_exitKernel (registered : session.snapshot.kernels.find? kernel.id = some kernel)
    (device : session.snapshot.hasDevice kernel.dev = true) :
    session.perform (.edit (.exitKernel kernel.id)) =
      ⟨.ok (.kernel (some kernel)), session.withSnapshot (session.snapshot.exitKernel kernel),
        [.kernelDestroyed kernel.id]⟩ := by
  simp only [perform, edit, registered, device, if_true]

theorem exits_exitKernel (distinct : session.snapshot.kernels.GridsDistinct)
    (member : kernel ∈ session.snapshot.kernels.kernels) :
    session.Exits (session.withSnapshot (session.snapshot.exitKernel kernel)) kernel where
  unregistered := KernelTable.find?_erase_self _ _
  registered := fun _ different => KernelTable.find?_erase_of_ne different
  terminated := Snapshot.grid_exitKernel_self _ _
  grid := fun _ different => Snapshot.grid_exitKernel_of_ne different
  retired := fun _ works => Snapshot.warp_exitKernel_of_worksFor distinct member works
  warp := fun _ apart => Snapshot.warp_exitKernel_of_not_worksFor distinct member apart
  sm := rfl
  breakpoint := rfl
  clock := rfl
  shape := rfl
  functions := rfl
  gridQueries := rfl
  outage := rfl
  answers := by
    rw [← provider_snapshot session] at distinct member
    intro query workers set answered
    apply Provider.evaluate_of_exit distinct member _ _ workers answered
    · rw [provider_snapshot, provider_snapshot]
      rfl
    · exact session.clusterDim_exitKernel kernel

/-- The reads in between, of which the query may be one, may learn about kernels. -/
theorem evaluate_of_reads_exit (distinct : session.snapshot.kernels.GridsDistinct)
    (registered : session.snapshot.kernels.find? kernel.id = some kernel)
    (device : session.snapshot.hasDevice kernel.dev = true) {reads : History}
    (reading : ∀ step ∈ reads, step.isReading = true) {query : Query} (workers : query.IsForWorkers) {set : CoordSet}
    (answered : (session.provider.evaluate query).outcome = .ok set) :
    (((session.follow reads).perform (.edit (.exitKernel kernel.id))).session.provider.evaluate query).outcome =
      .ok (set.without kernel.id) := by
  have agrees := Agrees.follow session reading
  have learns := agrees.onlyLearns.snapshot
  obtain ⟨learnt, again, launch⟩ : ∃ learnt, (session.follow reads).snapshot.kernels.find? kernel.id = some learnt ∧
      learnt.launch = kernel.launch := by
    rcases learns.find?_cases kernel.id with ⟨absent, -⟩ | ⟨former, learnt, known, again, launch⟩
    · rw [registered] at absent
      contradiction
    · obtain rfl := Option.some.inj (registered.symm.trans known)
      exact ⟨learnt, again, launch⟩
  have id : kernel.id = learnt.id := by
    rw [Kernel.id, Kernel.id, launch]
  rw [id] at again ⊢
  have member := (KernelTable.find?_eq_some.mp again).1
  have deviceAgain : (session.follow reads).snapshot.hasDevice learnt.dev = true := by
    rw [Snapshot.hasDevice, learns.shape, Kernel.dev, launch]
    exact device
  rw [perform_exitKernel again deviceAgain]
  apply (exits_exitKernel (distinct.congr learns.launches) member).answers query workers set
  rw [agrees.evaluate_eq]
  exact answered

theorem exitKernel_exits (session : Session) (kernel : Kernel) (distinct : session.snapshot.kernels.GridsDistinct)
    (registered : session.snapshot.kernels.find? kernel.id = some kernel)
    (device : session.snapshot.hasDevice kernel.dev = true) :
    (session.perform (.edit (.exitKernel kernel.id))).answer = .ok (.kernel (some kernel)) ∧
      session.Exits (session.perform (.edit (.exitKernel kernel.id))).session kernel ∧
      ∀ reads : History, (∀ step ∈ reads, step.isReading = true) →
        ∀ query : Query, query.IsForWorkers → ∀ set, (session.provider.evaluate query).outcome = .ok set →
          (((session.follow reads).perform (.edit (.exitKernel kernel.id))).session.provider.evaluate query).outcome =
            .ok (set.without kernel.id) := by
  refine ⟨?_, ?_, ?_⟩
  · rw [perform_exitKernel registered device]
  · rw [perform_exitKernel registered device]
    exact exits_exitKernel distinct (KernelTable.find?_eq_some.mp registered).1
  · intro reads reading query workers set answered
    exact evaluate_of_reads_exit distinct registered device reading workers answered

/-- Three kernels at work, two of them on grids with the same number on different devices, and an idle warp that has
this number too. -/
def shared : Session :=
  let launch (kernel : KernelId) (dev : Ordinal) (grid : GridId) : Launch :=
    { kernel, dev, grid, moduleId := 1, entry := 0x40, gridDim := ⟨1, 1, 1⟩, blockDim := ⟨2, 1, 1⟩,
      clusterDim := .zero, type := .application, origin := .cpu, parent := none }
  (Snapshot.ofShape ⟨2, 1, 2, 2⟩).session.follow
    [.edit (.populate ⟨1, 0, 1⟩ 9 .zero 0 2), .edit (.populate ⟨1, 0, 0⟩ 8 .zero 0 1),
      .edit (.populate ⟨0, 0, 0⟩ 7 .zero 0 2), .edit (.setWarp ⟨0, 0, 1⟩ { grid := some 3 }),
      .edit (.launch (launch 9 1 4)), .edit (.launch (launch 8 1 3)), .edit (.launch (launch 7 0 3))]

theorem shared_exits : ∃ kernel set, shared.snapshot.kernels.find? 8 = some kernel ∧
    (shared.provider.evaluate { granularity := .threads }).outcome = .ok set ∧ set.coords.size = 6 ∧
    (set.without 8).coords.size = 4 ∧
    shared.Exits (shared.perform (.edit (.exitKernel 8))).session kernel ∧
    (((shared.follow .inspecting).perform (.edit (.exitKernel 8))).session.provider.evaluate
      { granularity := .threads }).outcome = .ok (set.without 8) := by
  have distinct : shared.snapshot.kernels.GridsDistinct := by
    unfold KernelTable.GridsDistinct
    decide +kernel
  have exited := exitKernel_exits shared shared.snapshot.kernels.kernels[1] distinct (by cbv) (by cbv)
  refine ⟨_, _, by cbv, by cbv, by rfl, by rfl, exited.2.1, ?_⟩
  exact exited.2.2 .inspecting (by decide) _ ⟨rfl, .inl rfl⟩ _ (by cbv)

end Session

end LaneScope
