import Mathlib
import LaneScope.Proofs.Query.Soundness
import LaneScope.Proofs.Query.Visibility
import LaneScope.Proofs.Session.Answers
import LaneScope.Proofs.Session.Course

/-!
Where kernels are resident.  Residency is told by the lanes of a kernel: a valid warp whose lanes are all invalid counts
for nothing.  Main statement: the resident kernels are those with a valid lane, and the mask of a kernel is set for the
multiprocessors that have such a lane, so both tell the valid warps exactly where these have a valid lane.
-/

namespace LaneScope

namespace Snapshot

def HoldsKernel (snapshot : Snapshot) (kernel : Kernel) (site : Site) : Prop :=
  snapshot.hasWarp site = true ∧ snapshot.RunsWarp site ∧ snapshot.kernelAt site = some kernel

def ShowsKernel (snapshot : Snapshot) (kernel : Kernel) (site : Site) : Prop :=
  snapshot.HoldsKernel kernel site ∧ ∃ ln, snapshot.hasLane site ln = true ∧ (snapshot.lane site ln).valid = true

end Snapshot

theorem Field.word?_eq_some {width : Nat} {field : Field width} {word : BitVec width} :
    field.word? = some word ↔ field = .value word := by
  cases field <;> simp [word?]

namespace Provider

variable {provider : Provider} {query : Query} {set : CoordSet} {kernel : Kernel} {site : Site} {ln : Ordinal}

theorem Resolves.exists_kernelAt {address : Logical} (resolved : provider.Resolves site ln address)
    (runs : provider.snapshot.RunsWarp site) :
    ∃ kernel, provider.snapshot.kernelAt site = some kernel ∧ address.kernel = .value kernel.id := by
  cases resolved with
  | idleWarp idle => exact (idle runs).elim
  | idleLane _ _ known _ => exact ⟨_, known, rfl⟩
  | lane _ known _ => exact ⟨_, known, rfl⟩

theorem exists_resolves_of_reads (read : query.Reads provider site)
    (admitted : query.lanewise.Admits provider.snapshot site ln) : ∃ address, provider.Resolves site ln address := by
  have readLanes := Query.reads_congr (query.hits_lanewise provider).symm read
  exact Query.exists_resolves_of_admits query.granularity.lanewise_fine readLanes admitted

/-- The unit of a lane that the query asks for is reported, also where its warp was passed over. -/
theorem exists_unit_of_admits (coarse : query.granularity.isSingleLane = false) (many : query.select.single = false)
    (answered : (provider.evaluate query).outcome = .ok set) (inRange : provider.snapshot.hasLane site ln = true)
    (admitted : query.lanewise.Admits provider.snapshot site ln)
    (accepted : ∀ address, provider.Resolves site ln address → query.filter.logical.accepts address = true) :
    ∃ unit ∈ set.coords, (query.granularity.isPlaced = true ∧
        query.granularity.unitOf unit = query.granularity.unitOf site.coords) ∨
      ∃ address, provider.Resolves site ln address ∧
        query.granularity.unitOf unit = query.granularity.unitOf ⟨.lane site.dev site.sm site.wp ln, address⟩ := by
  obtain ⟨-, reported, surveyed, collected⟩ := evaluate_eq_ok.mp answered
  obtain ⟨member, -⟩ := Snapshot.hasLane_iff.mp inRange
  -- A warp that is not read was passed over, because a unit of its place was reported before.
  rcases Query.reads_or_isAmong_of_survey many surveyed site member with read | ⟨placed, among⟩
  · obtain ⟨address, resolved⟩ := exists_resolves_of_reads read admitted
    have listed := qualifies_lanewise_iff.mp
      ⟨site, ln, address, inRange, admitted, resolved, accepted address resolved, rfl⟩
    have firsts := Query.reportsFirsts_collect coarse many query.comparator (query.listing provider)
    rw [← eq_collect_of_evaluate answered] at firsts
    obtain ⟨unit, unitMember, same, -⟩ := firsts.onePerUnit _ listed
    exact ⟨unit, unitMember, .inr ⟨address, resolved, same⟩⟩
  · obtain ⟨unit, unitMember, same⟩ := List.any_eq_true.mp among
    rw [collected]
    exact ⟨unit, CoordSet.mem_collect.mpr unitMember, .inl ⟨placed, (beq_iff_eq.mp same).symm⟩⟩

theorem exists_lane_of_mem (answered : (provider.evaluate query).outcome = .ok set) {unit : Coords}
    (member : unit ∈ set.coords) : ∃ site ln address, provider.snapshot.hasLane site ln = true ∧
      query.lanewise.Admits provider.snapshot site ln ∧ provider.Resolves site ln address ∧
      query.filter.logical.accepts address = true ∧
      unit = Coords.project ⟨.lane site.dev site.sm site.wp ln, address⟩ query.granularity := by
  obtain ⟨coords, listed, rfl⟩ := exists_mem_listing answered member
  obtain ⟨site, ln, address, inRange, admitted, resolved, accepted, rfl⟩ := qualifies_lanewise_iff.mpr listed
  exact ⟨site, ln, address, inRange, admitted, resolved, accepted, rfl⟩

theorem Resolves.kernel_eq {address : Logical} (resolved : provider.Resolves site ln address)
    (runs : provider.snapshot.RunsWarp site) (known : provider.snapshot.kernelAt site = some kernel) :
    address.kernel = .value kernel.id := by
  obtain ⟨other, otherKnown, named⟩ := resolved.exists_kernelAt runs
  obtain rfl := Option.some.inj (known.symm.trans otherKnown)
  exact named

theorem Resolves.kernelAt_eq {address : Logical} (resolved : provider.Resolves site ln address)
    (runs : provider.snapshot.RunsWarp site) (member : kernel ∈ provider.snapshot.kernels.kernels)
    (named : address.kernel = .value kernel.id) : provider.snapshot.kernelAt site = some kernel := by
  obtain ⟨other, known, otherNamed⟩ := resolved.exists_kernelAt runs
  have otherMember := List.mem_of_find?_eq_some known
  have same : other.id = kernel.id := Field.value.inj (otherNamed.symm.trans named)
  rwa [← KernelTable.eq_of_id_eq otherMember member same]

theorem showsKernel_of_resolves {address : Logical} (inRange : provider.snapshot.hasLane site ln = true)
    (runs : provider.snapshot.RunsLane site ln) (resolved : provider.Resolves site ln address)
    (member : kernel ∈ provider.snapshot.kernels.kernels) (named : address.kernel = .value kernel.id) :
    provider.snapshot.ShowsKernel kernel site :=
  ⟨⟨Snapshot.hasWarp_of_hasLane inRange, runs.1, resolved.kernelAt_eq runs.1 member named⟩, ln, inRange, runs.2⟩

theorem mem_kernelIds_iff (answered : (provider.evaluate Focus.residentKernels).outcome = .ok set)
    (member : kernel ∈ provider.snapshot.kernels.kernels) :
    kernel.id ∈ set.kernelIds ↔ ∃ site, provider.snapshot.ShowsKernel kernel site := by
  have listed : kernel.id ∈ set.kernelIds ↔ ∃ unit ∈ set.coords, unit.logical.kernel = .value kernel.id := by
    simp only [CoordSet.kernelIds, List.mem_filterMap, Array.mem_toList_iff, Field.word?_eq_some]
  rw [listed]
  constructor
  · rintro ⟨unit, unitMember, named⟩
    obtain ⟨site, ln, address, inRange, admitted, resolved, -, rfl⟩ := exists_lane_of_mem answered unitMember
    have runs := ((Query.admits_iff_of_valid rfl).mp admitted).2
    exact ⟨site, showsKernel_of_resolves inRange runs resolved member named⟩
  · rintro ⟨site, ⟨-, runs, known⟩, ln, inRange, valid⟩
    have admitted : Focus.residentKernels.lanewise.Admits provider.snapshot site ln :=
      (Query.admits_iff_of_valid rfl).mpr ⟨rfl, runs, valid⟩
    obtain ⟨unit, unitMember, ⟨placed, -⟩ | ⟨address, resolved, same⟩⟩ :=
      exists_unit_of_admits rfl rfl answered inRange admitted fun address _ => Logical.wild_accepts address
    · contradiction
    · refine ⟨unit, unitMember, ?_⟩
      have sameKernel := congrArg (fun coords => coords.logical.kernel) same
      exact sameKernel.trans (resolved.kernel_eq runs known)

theorem registered_of_mem_kernelIds (answered : (provider.evaluate Focus.residentKernels).outcome = .ok set)
    {id : KernelId} (listed : id ∈ set.kernelIds) : id ∈ provider.snapshot.kernels.ids := by
  simp only [CoordSet.kernelIds, List.mem_filterMap, Array.mem_toList_iff, Field.word?_eq_some] at listed
  obtain ⟨unit, unitMember, named⟩ := listed
  obtain ⟨site, ln, address, -, admitted, resolved, -, rfl⟩ := exists_lane_of_mem answered unitMember
  have runs := ((Query.admits_iff_of_valid rfl).mp admitted).2
  obtain ⟨kernel, known, kernelNamed⟩ := resolved.exists_kernelAt runs.1
  obtain rfl : kernel.id = id := Field.value.inj (kernelNamed.symm.trans named)
  exact List.mem_map_of_mem (List.mem_of_find?_eq_some known)

theorem exists_sm_iff (answered : (provider.evaluate (Focus.smsOf kernel)).outcome = .ok set)
    (member : kernel ∈ provider.snapshot.kernels.kernels) (sm : Ordinal) :
    (∃ unit ∈ set.coords, unit.physical.sm = .value sm) ↔
      ∃ wp, provider.snapshot.ShowsKernel kernel ⟨kernel.dev, sm, wp⟩ := by
  have accepts_iff (site : Site) (ln : Ordinal) :
      (Focus.smsOf kernel).filter.physical.accepts (.lane site.dev site.sm site.wp ln) = true ↔ kernel.dev = site.dev := by
    simp [Focus.smsOf, Physical.accepts, Physical.lane, Field.accepts, Field.isWildcard]
  have named_iff (address : Logical) :
      (Focus.smsOf kernel).filter.logical.accepts address = true ↔ address.kernel = .value kernel.id := by
    simpa [Focus.smsOf, Logical.accepts, Field.accepts, Field.isWildcard] using eq_comm
  constructor
  · rintro ⟨unit, unitMember, onSm⟩
    obtain ⟨site, ln, address, inRange, admitted, resolved, accepted, rfl⟩ := exists_lane_of_mem answered unitMember
    obtain ⟨place, runs⟩ := (Query.admits_iff_of_valid rfl).mp admitted
    obtain rfl : site.sm = sm := Field.value.inj onSm
    rw [(accepts_iff site ln).mp place]
    exact ⟨site.wp, showsKernel_of_resolves inRange runs resolved member ((named_iff address).mp accepted)⟩
  · rintro ⟨wp, ⟨-, runs, known⟩, ln, inRange, valid⟩
    have admitted : (Focus.smsOf kernel).lanewise.Admits provider.snapshot ⟨kernel.dev, sm, wp⟩ ln :=
      (Query.admits_iff_of_valid rfl).mpr ⟨(accepts_iff _ ln).mpr rfl, runs, valid⟩
    have accepted : ∀ address, provider.Resolves ⟨kernel.dev, sm, wp⟩ ln address →
        (Focus.smsOf kernel).filter.logical.accepts address = true :=
      fun address resolved => (named_iff address).mpr (resolved.kernel_eq runs known)
    obtain ⟨unit, unitMember, ⟨-, same⟩ | ⟨address, -, same⟩⟩ :=
      exists_unit_of_admits rfl rfl answered inRange admitted accepted
    · exact ⟨unit, unitMember, congrArg (fun coords => coords.physical.sm) same⟩
    · exact ⟨unit, unitMember, congrArg (fun coords => coords.physical.sm) same⟩

end Provider

namespace CoordSet

theorem length_smMask (set : CoordSet) (sms : Ordinal) : (set.smMask sms).length = sms.toNat := by
  simp [smMask, ordinals]

theorem getElem?_smMask (set : CoordSet) {sms sm : Ordinal} (inRange : sm.toNat < sms.toNat) :
    (set.smMask sms)[sm.toNat]? = some true ↔ ∃ unit ∈ set.coords, unit.physical.sm = .value sm := by
  have there : (ordinals sms)[sm.toNat]? = some sm := by simp [ordinals, inRange]
  simp only [smMask, List.getElem?_map, there, Option.map_some, Option.some.injEq, Array.any_eq_true', beq_iff_eq]

end CoordSet

namespace Session

structure TellsResidency (session : Session) : Prop where
  registered : ∀ ids, (session.perform (.read .residentKernels)).answer = .ok (.ids ids) →
    ∀ id ∈ ids, id ∈ session.snapshot.kernels.ids
  listed : ∀ ids, (session.perform (.read .residentKernels)).answer = .ok (.ids ids) →
    ∀ kernel ∈ session.snapshot.kernels.kernels, kernel.id ∈ ids ↔ ∃ site, session.snapshot.ShowsKernel kernel site
  masked : ∀ kernel ∈ session.snapshot.kernels.kernels, ∀ mask,
    (session.perform (.onKernel kernel.id .smMask)).answer = .ok (.flags mask) →
      mask.length = session.snapshot.shape.sms.toNat ∧ ∀ sm, sm.toNat < session.snapshot.shape.sms.toNat →
        (mask[sm.toNat]? = some true ↔ ∃ wp, session.snapshot.ShowsKernel kernel ⟨kernel.dev, sm, wp⟩)
  listsWarps : ∀ ids, (session.perform (.read .residentKernels)).answer = .ok (.ids ids) →
    ∀ kernel ∈ session.snapshot.kernels.kernels,
      (kernel.id ∈ ids ↔ ∃ site, session.snapshot.HoldsKernel kernel site) ↔
        ∀ site, session.snapshot.HoldsKernel kernel site → ∃ other, session.snapshot.ShowsKernel kernel other
  masksWarps : ∀ kernel ∈ session.snapshot.kernels.kernels, ∀ mask,
    (session.perform (.onKernel kernel.id .smMask)).answer = .ok (.flags mask) →
      ∀ sm, sm.toNat < session.snapshot.shape.sms.toNat →
        ((mask[sm.toNat]? = some true ↔ ∃ wp, session.snapshot.HoldsKernel kernel ⟨kernel.dev, sm, wp⟩) ↔
          ∀ wp, session.snapshot.HoldsKernel kernel ⟨kernel.dev, sm, wp⟩ →
            ∃ other, session.snapshot.ShowsKernel kernel ⟨kernel.dev, sm, other⟩)

theorem residentKernels_eq_ok {session : Session} {ids : List KernelId} :
    (session.perform (.read .residentKernels)).answer = .ok (.ids ids) ↔
      ∃ set, (session.provider.evaluate Focus.residentKernels).outcome = .ok set ∧ ids = set.kernelIds := by
  rw [perform, answer_residentKernels, reply_eq_ok]
  simp

theorem smMask_eq_ok {session : Session} {kernel : Kernel} {mask : List Bool}
    (member : kernel ∈ session.snapshot.kernels.kernels) :
    (session.perform (.onKernel kernel.id .smMask)).answer = .ok (.flags mask) ↔
      session.snapshot.hasDevice kernel.dev = true ∧ ∃ set,
        (session.provider.evaluate (Focus.smsOf kernel)).outcome = .ok set ∧
          mask = set.smMask session.snapshot.shape.sms := by
  have found := KernelTable.find?_eq_some.mpr ⟨member, rfl⟩
  simp only [perform, found, onKernel]
  split
  · rename_i present
    simp [put_eq_ok, present]
  · rename_i absent
    simp [refuse, absent]

/-- Where a narrow property is told, a wider one is told as well exactly where it entails the narrow one. -/
theorem tells_wider_iff {α : Type} {told : Prop} {narrow wide : α → Prop} (tells : told ↔ ∃ place, narrow place)
    (widens : ∀ place, narrow place → wide place) :
    (told ↔ ∃ place, wide place) ↔ ∀ place, wide place → ∃ other, narrow other := by
  rw [tells]
  constructor
  · intro same place widely
    exact same.mpr ⟨place, widely⟩
  · intro narrows
    constructor
    · rintro ⟨place, narrowly⟩
      exact ⟨place, widens place narrowly⟩
    · rintro ⟨place, widely⟩
      exact narrows place widely

theorem mem_ids_of_residentKernels {session : Session} {ids : List KernelId} {kernel : Kernel}
    (answered : (session.perform (.read .residentKernels)).answer = .ok (.ids ids))
    (member : kernel ∈ session.snapshot.kernels.kernels) :
    kernel.id ∈ ids ↔ ∃ site, session.snapshot.ShowsKernel kernel site := by
  obtain ⟨set, evaluated, rfl⟩ := residentKernels_eq_ok.mp answered
  rw [← provider_snapshot] at member ⊢
  exact Provider.mem_kernelIds_iff evaluated member

theorem getElem?_of_smMask {session : Session} {mask : List Bool} {kernel : Kernel} {sm : Ordinal}
    (answered : (session.perform (.onKernel kernel.id .smMask)).answer = .ok (.flags mask))
    (member : kernel ∈ session.snapshot.kernels.kernels) (inRange : sm.toNat < session.snapshot.shape.sms.toNat) :
    mask[sm.toNat]? = some true ↔ ∃ wp, session.snapshot.ShowsKernel kernel ⟨kernel.dev, sm, wp⟩ := by
  obtain ⟨-, set, evaluated, rfl⟩ := (smMask_eq_ok member).mp answered
  rw [CoordSet.getElem?_smMask set inRange]
  rw [← provider_snapshot] at member ⊢
  exact Provider.exists_sm_iff evaluated member sm

theorem tellsResidency (session : Session) : session.TellsResidency where
  registered := by
    intro ids answered id listed
    obtain ⟨set, evaluated, rfl⟩ := residentKernels_eq_ok.mp answered
    have registered := Provider.registered_of_mem_kernelIds evaluated listed
    rwa [provider_snapshot] at registered
  listed ids answered kernel member := mem_ids_of_residentKernels answered member
  masked := by
    intro kernel member mask answered
    refine ⟨?_, fun sm inRange => getElem?_of_smMask answered member inRange⟩
    obtain ⟨-, set, -, rfl⟩ := (smMask_eq_ok member).mp answered
    exact set.length_smMask _
  listsWarps ids answered kernel member :=
    tells_wider_iff (mem_ids_of_residentKernels answered member) fun site shown => shown.1
  masksWarps kernel member mask answered sm inRange :=
    tells_wider_iff (getElem?_of_smMask answered member inRange) fun wp shown => shown.1

/-- One warp is valid and runs a kernel, but its only lane is not valid. -/
def hollow : Session :=
  (Snapshot.ofShape ⟨1, 1, 1, 1⟩).session.follow
    [.edit (.setLane ⟨0, 0, 0⟩ 0 { valid := some false }), .edit (.populate ⟨0, 0, 0⟩ 7 .zero 0 1),
      .edit (.launch
        { kernel := 7, dev := 0, grid := 3, moduleId := 1, entry := 0x40, gridDim := ⟨1, 1, 1⟩, blockDim := ⟨1, 1, 1⟩,
          clusterDim := .zero, type := .application, origin := .cpu, parent := none })]

/-- A valid warp without a valid lane is told by neither. -/
theorem hollow_untold : ∃ kernel ∈ hollow.snapshot.kernels.kernels, hollow.snapshot.hasDevice kernel.dev = true ∧
    hollow.snapshot.HoldsKernel kernel ⟨0, 0, 0⟩ ∧
    (hollow.perform (.read .residentKernels)).answer = .ok (.ids []) ∧
    (hollow.perform (.onKernel kernel.id .smMask)).answer = .ok (.flags [false]) := by
  have found : hollow.snapshot.kernels.find? 7 = some _ := rfl
  refine ⟨_, List.mem_of_find?_eq_some found, rfl, ⟨rfl, ⟨rfl, rfl⟩, rfl⟩, ?_, ?_⟩
  · cbv
  · cbv

end Session

end LaneScope
