import Mathlib
import LaneScope.Proofs.Query.FirstFault
import LaneScope.Proofs.Session.Aspects
import LaneScope.Proofs.Session.Residency

/-!
The two views of residency, one of all kernels and one of the multiprocessors of a single kernel.  Main statement: the
views agree with each other and with what is listed of threads, and listing the resident kernels marks these and no
others.
-/

namespace LaneScope

namespace KernelTable

def mark? (table : KernelTable) (id : KernelId) : Option Bool :=
  (table.find? id).map Kernel.launched

theorem mark?_setLaunched (table : KernelTable) (marked id : KernelId) :
    (table.setLaunched marked true).mark? id = (table.mark? id).map (· || id == marked) := by
  rw [mark?, setLaunched, find?_reviseAt, mark?]
  cases table.find? id with
  | none => simp
  | some kernel => by_cases same : id = marked <;> simp [same]

theorem mark?_foldl_setLaunched (table : KernelTable) (ids : List KernelId) (id : KernelId) :
    (ids.foldl (fun table marked => table.setLaunched marked true) table).mark? id =
      (table.mark? id).map (· || ids.contains id) := by
  induction ids generalizing table with
  | nil => simp
  | cons marked ids ih =>
      rw [List.foldl_cons, ih, mark?_setLaunched, Option.map_map, List.contains_cons]
      simp only [Function.comp_def, Bool.or_assoc]

end KernelTable

namespace Focus

def threadsOn (kernel : Kernel) (sm : Ordinal) : Query where
  granularity := .threads
  filter :=
    { physical := { dev := .value kernel.dev, sm := .value sm }, logical := { kernel := .value kernel.id } }
  select := { valid := true }

theorem threadsOn_accepts_place {kernel : Kernel} {sm ln : Ordinal} {site : Site} :
    (threadsOn kernel sm).filter.physical.accepts (.lane site.dev site.sm site.wp ln) = true ↔
      kernel.dev = site.dev ∧ sm = site.sm := by
  simp [threadsOn, Physical.accepts, Physical.lane, Field.accepts, Field.isWildcard]

theorem threadsOn_accepts_address {kernel : Kernel} {sm : Ordinal} {address : Logical} :
    (threadsOn kernel sm).filter.logical.accepts address = true ↔ address.kernel = .value kernel.id := by
  simpa [threadsOn, Logical.accepts, Field.accepts, Field.isWildcard] using eq_comm

end Focus

namespace Provider

variable {provider : Provider} {set : CoordSet} {kernel : Kernel}

/-- The search for resident kernels has the identity of every valid warp told. -/
theorem identity_of_residentKernels (answered : (provider.evaluate Focus.residentKernels).outcome = .ok set)
    {site : Site} (member : site ∈ provider.snapshot.sites) : ∃ identity, provider.identity site = .ok identity := by
  by_cases runs : provider.snapshot.RunsWarp site
  · obtain ⟨-, reported, surveyed, -⟩ := evaluate_eq_ok.mp answered
    have read := Query.reads_of_survey rfl rfl surveyed site member
    have identifies : Focus.residentKernels.Identifies provider.snapshot site := by
      refine ⟨Snapshot.mem_sites.mp member, runs, rfl, rfl, rfl, ?_, ?_, ?_⟩ <;> simp [Focus.residentKernels]
    rcases Query.hits_eq_ok.mp read with ⟨shut, -⟩ | ⟨-, identity, told, -⟩
    · rw [(Query.identifies_iff.mp identifies).2.1] at shut
      contradiction
    · exact ⟨identity, told⟩
  · exact ⟨.invalid, identity_eq_ok.mpr (.inl ⟨runs, rfl⟩)⟩

theorem qualifies_threadsOn (answered : (provider.evaluate Focus.residentKernels).outcome = .ok set)
    (member : kernel ∈ provider.snapshot.kernels.kernels) (sm : Ordinal) :
    (∃ coords, provider.Qualifies (Focus.threadsOn kernel sm) coords) ↔
      ∃ wp, provider.snapshot.ShowsKernel kernel ⟨kernel.dev, sm, wp⟩ := by
  constructor
  · rintro ⟨-, ⟨dev, _, wp⟩, ln, address, inRange, admitted, resolved, accepted, rfl⟩
    obtain ⟨place, runs⟩ := (Query.admits_iff_of_valid rfl).mp admitted
    obtain ⟨rfl, rfl⟩ := Focus.threadsOn_accepts_place.mp place
    exact ⟨wp, showsKernel_of_resolves inRange runs resolved member (Focus.threadsOn_accepts_address.mp accepted)⟩
  · rintro ⟨wp, ⟨held, runs, known⟩, ln, inRange, valid⟩
    obtain ⟨identity, told⟩ := identity_of_residentKernels answered (Snapshot.mem_sites.mpr held)
    have resolved : provider.Resolves ⟨kernel.dev, sm, wp⟩ ln _ := resolves_iff.mpr ⟨identity, told, rfl⟩
    refine ⟨_, ⟨kernel.dev, sm, wp⟩, ln, _, inRange, ?_, resolved, ?_, rfl⟩
    · exact (Query.admits_iff_of_valid rfl).mpr ⟨Focus.threadsOn_accepts_place.mpr ⟨rfl, rfl⟩, runs, valid⟩
    · exact Focus.threadsOn_accepts_address.mpr (resolved.kernel_eq runs known)

/-- Where the resident kernels are told, so are the threads of a kernel on a multiprocessor. -/
theorem evaluate_threadsOn (answered : (provider.evaluate Focus.residentKernels).outcome = .ok set)
    (member : kernel ∈ provider.snapshot.kernels.kernels) (sm : Ordinal) : ∃ threads,
      (provider.evaluate (Focus.threadsOn kernel sm)).outcome = .ok threads ∧
        (threads.coords ≠ #[] ↔ ∃ wp, provider.snapshot.ShowsKernel kernel ⟨kernel.dev, sm, wp⟩) := by
  have read : ∀ site ∈ provider.snapshot.sites, (Focus.threadsOn kernel sm).Reads provider site := by
    intro site siteMember
    obtain ⟨identity, told⟩ := identity_of_residentKernels answered siteMember
    exact Query.reads_of_identity told
  have evaluated := evaluate_of_reads rfl read
  refine ⟨_, evaluated, ?_⟩
  rw [← qualifies_threadsOn answered member]
  simp only [← mem_of_evaluate_iff (.inr rfl) rfl evaluated]
  constructor
  · exact Array.exists_mem_of_ne_empty _
  · rintro ⟨coords, listed⟩
    exact Array.ne_empty_of_mem listed

/-- The order of units is the order of their kernels, since no kernel is reported twice. -/
theorem kernelIds_ascending (answered : (provider.evaluate Focus.residentKernels).outcome = .ok set) :
    set.kernelIds.Pairwise fun id later => id.toNat < later.toNat := by
  have coarse : Focus.residentKernels.granularity.isSingleLane = false := rfl
  have reports : ReportsFirsts .kernels (Focus.residentKernels.listing provider) set := by
    rw [eq_collect_of_evaluate answered]
    exact Query.reportsFirsts_collect coarse rfl _ _
  have ascending : set.coords.toList.Pairwise fun unit other =>
      Focus.residentKernels.comparator.compare unit other = .lt := by
    rw [eq_collect_of_evaluate answered]
    exact CoordSet.collect_ascending _ _
  rw [CoordSet.kernelIds, List.pairwise_filterMap]
  apply ascending.imp_of_mem
  intro unit other member otherMember less id named later laterNamed
  rw [Field.word?_eq_some] at named laterNamed
  have ordered : id.toNat ≤ later.toNat := by
    apply Nat.le_of_not_lt
    intro greater
    have compared : compare id.toNat later.toNat = .gt := Nat.compare_eq_gt.mpr greater
    simp [Focus.residentKernels, Comparator.compare, Comparator.compareLogical, Logical.order, Field.order, named,
      laterNamed, compared] at less
  apply Nat.lt_of_le_of_ne ordered
  intro same
  have sameUnit : Granularity.kernels.unitOf other = Granularity.kernels.unitOf unit := by
    simp only [Granularity.unitOf, named, laterNamed, BitVec.eq_of_toNat_eq same]
  obtain rfl := reports.eq_of_unitOf_eq (Array.mem_toList_iff.mp member) (Array.mem_toList_iff.mp otherMember) sameUnit
  have equal : Focus.residentKernels.comparator.compare other other = .eq := Std.ReflCmp.compare_self
  rw [equal] at less
  contradiction

end Provider

namespace Session

variable {session : Session}

theorem mark?_ask (session : Session) (query : Query) (id : KernelId) :
    (session.ask query).2.snapshot.kernels.mark? id = session.snapshot.kernels.mark? id := by
  rw [KernelTable.mark?, KernelTable.mark?]
  cases known : session.snapshot.kernels.find? id with
  | none =>
      have learns := (Agrees.ask session query).onlyLearns.snapshot
      rcases learns.find?_cases id with ⟨-, unknown⟩ | ⟨kernel, -, found, -⟩
      · rw [unknown]
      · rw [known] at found
        contradiction
  | some kernel =>
      rw [session_ask, find?_learn known]
      rfl

theorem mark?_residentKernels (session : Session) (id : KernelId) :
    (session.perform (.read .residentKernels)).session.snapshot.kernels.mark? id =
      match (session.perform (.read .residentKernels)).answer with
      | .ok (.ids ids) => (session.snapshot.kernels.mark? id).map (· || ids.contains id)
      | _ => session.snapshot.kernels.mark? id := by
  have asked := mark?_ask session Focus.residentKernels id
  simp only [perform, read, residentKernels]
  cases answered : session.ask Focus.residentKernels with
  | mk outcome after =>
      rw [answered] at asked
      cases outcome with
      | error fault => exact asked
      | ok set => exact (KernelTable.mark?_foldl_setLaunched ..).trans (congrArg _ asked)

theorem length_of_smMask {kernel : Kernel} {mask : List Bool} (member : kernel ∈ session.snapshot.kernels.kernels)
    (answered : (session.perform (.onKernel kernel.id .smMask)).answer = .ok (.flags mask)) :
    mask.length = session.snapshot.shape.sms.toNat := by
  obtain ⟨-, set, -, rfl⟩ := (smMask_eq_ok member).mp answered
  exact set.length_smMask _

/-- A mask loses no multiprocessor, since the warps of a kernel are on its device. -/
theorem true_mem_of_smMask {kernel : Kernel} {mask : List Bool} (member : kernel ∈ session.snapshot.kernels.kernels)
    (answered : (session.perform (.onKernel kernel.id .smMask)).answer = .ok (.flags mask)) :
    true ∈ mask ↔ ∃ site, session.snapshot.ShowsKernel kernel site := by
  constructor
  · intro told
    obtain ⟨place, there⟩ := List.mem_iff_getElem?.mp told
    have below : place < session.snapshot.shape.sms.toNat := by
      rw [← length_of_smMask member answered]
      exact (List.getElem?_eq_some_iff.mp there).1
    have same : (BitVec.ofNat 32 place).toNat = place := by
      rw [BitVec.toNat_ofNat, Nat.mod_eq_of_lt (below.trans session.snapshot.shape.sms.isLt)]
    rw [← same] at there below
    obtain ⟨wp, shown⟩ := (getElem?_of_smMask answered member below).mp there
    exact ⟨_, shown⟩
  · rintro ⟨⟨dev, sm, wp⟩, shown⟩
    have onDevice : kernel.dev = dev := (Snapshot.place_of_kernelAt shown.1.2.2).1
    subst onDevice
    have onSm := Snapshot.hasSm_of_hasWarp shown.1.1
    rw [Snapshot.hasSm, Bool.and_eq_true, decide_eq_true_eq] at onSm
    exact List.mem_of_getElem? ((getElem?_of_smMask answered member onSm.2).mpr ⟨wp, shown⟩)

structure ListsResidents (session : Session) (ids : List KernelId) : Prop where
  ascending : ids.Pairwise fun id later => id.toNat < later.toNat
  registered : ∀ id ∈ ids, id ∈ session.snapshot.kernels.ids
  marked : ∀ id, (session.perform (.read .residentKernels)).session.snapshot.kernels.mark? id =
    (session.snapshot.kernels.mark? id).map (· || ids.contains id)
  masked : ∀ kernel ∈ session.snapshot.kernels.kernels, ∀ mask,
    (session.perform (.onKernel kernel.id .smMask)).answer = .ok (.flags mask) →
      (kernel.id ∈ ids ↔ true ∈ mask) ∧ mask.length = session.snapshot.shape.sms.toNat ∧
        ∀ sm, sm.toNat < session.snapshot.shape.sms.toNat → ∃ threads,
          (session.ask (Focus.threadsOn kernel sm)).1 = .ok threads ∧
            (mask[sm.toNat]? = some true ↔ threads.coords ≠ #[])

theorem residentKernels_listsResidents (session : Session) :
    (∀ ids, (session.perform (.read .residentKernels)).answer = .ok (.ids ids) → session.ListsResidents ids) ∧
      ∀ fault, (session.perform (.read .residentKernels)).answer = .error fault → ∀ id,
        (session.perform (.read .residentKernels)).session.snapshot.kernels.mark? id =
          session.snapshot.kernels.mark? id := by
  constructor
  · intro ids answered
    obtain ⟨set, evaluated, rfl⟩ := residentKernels_eq_ok.mp answered
    refine ⟨Provider.kernelIds_ascending evaluated, ?_, ?_, ?_⟩
    · intro id listed
      rw [← provider_snapshot]
      exact Provider.registered_of_mem_kernelIds evaluated listed
    · intro id
      rw [mark?_residentKernels, answered]
    · intro kernel member mask masked
      refine ⟨?_, length_of_smMask member masked, ?_⟩
      · rw [mem_ids_of_residentKernels answered member, true_mem_of_smMask member masked]
      · intro sm inRange
        rw [getElem?_of_smMask masked member inRange]
        rw [← provider_snapshot] at member ⊢
        obtain ⟨threads, listed, shown⟩ := Provider.evaluate_threadsOn evaluated member sm
        exact ⟨threads, listed, shown.symm⟩
  · intro fault refused id
    rw [mark?_residentKernels, refused]

/-- Two kernels share a multiprocessor, where the warp of the second comes first, and a third one has no warp. -/
def crowded : Session :=
  let launch (kernel : KernelId) (grid : GridId) : Launch :=
    { kernel, dev := 0, grid, moduleId := 1, entry := 0x40, gridDim := ⟨4, 1, 1⟩, blockDim := ⟨2, 1, 1⟩,
      clusterDim := .zero, type := .application, origin := .cpu, parent := none }
  (Snapshot.ofShape ⟨1, 2, 2, 2⟩).session.follow
    [.edit (.populate ⟨0, 1, 0⟩ 8 ⟨1, 0, 0⟩ 0 2), .edit (.populate ⟨0, 0, 1⟩ 7 .zero 0 2),
      .edit (.populate ⟨0, 0, 0⟩ 8 .zero 0 2), .edit (.launch (launch 9 5)), .edit (.launch (launch 8 4)),
      .edit (.launch (launch 7 3))]

theorem crowded_listsResidents :
    (crowded.perform (.onKernel 7 .smMask)).answer = .ok (.flags [true, false]) ∧
      (crowded.perform (.onKernel 8 .smMask)).answer = .ok (.flags [true, true]) ∧
      (crowded.perform (.onKernel 9 .smMask)).answer = .ok (.flags [false, false]) ∧
      (crowded.perform (.read .residentKernels)).answer = .ok (.ids [7, 8]) ∧ crowded.ListsResidents [7, 8] := by
  have answered : (crowded.perform (.read .residentKernels)).answer = .ok (.ids [7, 8]) := by cbv
  refine ⟨by cbv, by cbv, by cbv, answered, ?_⟩
  exact (residentKernels_listsResidents crowded).1 [7, 8] answered

end Session

end LaneScope
