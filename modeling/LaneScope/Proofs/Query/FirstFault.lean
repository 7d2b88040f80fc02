import Mathlib
import LaneScope.Proofs.Query.Faults
import LaneScope.Proofs.Query.Lanes
import LaneScope.Session.Step

/-!
When a query fails.  A query for single lanes has the identity of each valid warp told that its filter on places and its
criteria for warps let through.  Main statement: it fails exactly if one of these warps has a kernel that is unknown, or
one whose cluster extent is neither kept nor on record, and the first such warp decides how.
-/

namespace LaneScope

inductive Snapshot.Untold (snapshot : Snapshot) (site : Site) : QueryFault → Prop
  | stranger : snapshot.kernelAt site = none → Untold snapshot site (.unknownKernel site)
  | unrecorded {kernel} : snapshot.kernelAt site = some kernel → kernel.clusterDim = none →
      snapshot.grid (site.dev, (snapshot.warp site).grid) = none →
      Untold snapshot site (.lookup (.gridNotFound site.dev (snapshot.warp site).grid))

structure Query.Identifies (query : Query) (snapshot : Snapshot) (site : Site) : Prop where
  inRange : snapshot.hasWarp site = true
  runs : snapshot.RunsWarp site
  dev : query.filter.physical.dev.accepts (.value site.dev) = true
  sm : query.filter.physical.sm.accepts (.value site.sm) = true
  wp : query.filter.physical.wp.accepts (.value site.wp) = true
  reporting : query.select.exception = true ∨ query.select.smException = true →
    (snapshot.sm (site.dev, site.sm)).exception = true
  current : query.select.currentClock = true → snapshot.IsCurrent (snapshot.warp site).timestamp
  broken : query.select.trap = true → (snapshot.warp site).broken = true

structure Query.FailsAt (query : Query) (snapshot : Snapshot) (site : Site) (fault : QueryFault) : Prop where
  identifies : query.Identifies snapshot site
  untold : snapshot.Untold site fault
  earliest : ∀ other, other.Before site → query.Identifies snapshot other → ∀ reason, ¬ snapshot.Untold other reason

theorem Site.Before.asymm {site other : Site} (before : site.Before other) : ¬ other.Before site := by
  intro after
  simp only [Before, ← BitVec.toNat_inj] at before after
  omega

theorem Snapshot.place_of_kernelAt {snapshot : Snapshot} {site : Site} {kernel : Kernel}
    (known : snapshot.kernelAt site = some kernel) : kernel.dev = site.dev ∧ kernel.grid = (snapshot.warp site).grid := by
  simpa using List.find?_some known

namespace Provider

variable {snapshot : Snapshot} {site : Site} {fault : QueryFault}

theorem clusterDim_of_unrecorded {kernel : Kernel} (dropped : kernel.clusterDim = none)
    (absent : snapshot.grid (kernel.dev, kernel.grid) = none) :
    snapshot.provider.clusterDim kernel = .error (.gridNotFound kernel.dev kernel.grid) := by
  simp [clusterDim, dropped, Snapshot.provider, Snapshot.lookup, absent, Except.map]

theorem identity_eq_error_iff_untold : snapshot.provider.identity site = .error fault ↔
    snapshot.RunsWarp site ∧ snapshot.Untold site fault := by
  rw [identity_eq_error, Snapshot.warpValid_iff]
  apply and_congr_right
  intro _
  constructor
  · rintro (⟨unknown, rfl⟩ | ⟨kernel, reason, known, refused, rfl⟩)
    · exact .stranger unknown
    · obtain ⟨dropped, absent, rfl⟩ := clusterDim_eq_error refused
      obtain ⟨dev, grid⟩ := Snapshot.place_of_kernelAt known
      rw [dev, grid] at absent ⊢
      exact .unrecorded known dropped absent
  · intro untold
    cases untold with
    | stranger unknown => exact .inl ⟨unknown, rfl⟩
    | unrecorded known dropped absent =>
        obtain ⟨dev, grid⟩ := Snapshot.place_of_kernelAt known
        rw [← dev, ← grid] at absent ⊢
        exact .inr ⟨_, _, known, clusterDim_of_unrecorded dropped absent, rfl⟩

end Provider

namespace Query

variable {query : Query} {provider : Provider} {snapshot : Snapshot} {site : Site} {fault : QueryFault}

theorem identifies_iff : query.Identifies snapshot site ↔
    site ∈ snapshot.sites ∧ query.enters snapshot site = true ∧ snapshot.RunsWarp site := by
  simp only [Snapshot.mem_sites, enters, opensDevice, opensSm, opensWarp, Bool.and_eq_true, not_or_eq_true]
  simp only [Bool.or_eq_true, Bool.not_eq_true', Snapshot.warpValid_iff, Snapshot.isStale_iff]
  constructor
  · rintro ⟨inRange, runs, dev, sm, wp, reporting, current, broken⟩
    exact ⟨inRange, ⟨⟨dev, ⟨sm, reporting⟩, fun _ => runs.1⟩, ⟨⟨wp, fun _ => runs⟩, current⟩, broken⟩, runs⟩
  · rintro ⟨inRange, ⟨⟨dev, ⟨sm, reporting⟩, -⟩, ⟨⟨wp, -⟩, current⟩, broken⟩, runs⟩
    exact ⟨inRange, runs, dev, sm, wp, reporting, current, broken⟩

theorem hits_eq_error_iff (member : site ∈ snapshot.sites) : (query.hits snapshot.provider site).outcome = .error fault ↔
    query.Identifies snapshot site ∧ snapshot.Untold site fault := by
  rw [hits_eq_error, Provider.identity_eq_error_iff_untold, identifies_iff]
  constructor
  · rintro ⟨entered, runs, untold⟩
    exact ⟨⟨member, entered, runs⟩, untold⟩
  · rintro ⟨⟨-, entered, runs⟩, untold⟩
    exact ⟨entered, runs, untold⟩

/-- A survey of single lanes fails at the first warp that cannot be read, since it passes over none. -/
theorem survey_eq_error_iff (fine : query.granularity.isSingleLane = true) (many : query.select.single = false)
    {sites : List Site} {reported : List Coords} :
    (query.survey provider sites reported).outcome = .error fault ↔ ∃ earlier site later,
      sites = earlier ++ site :: later ∧ (query.hits provider site).outcome = .error fault ∧
        ∀ other ∈ earlier, ∀ reason, (query.hits provider other).outcome ≠ .error reason := by
  induction sites generalizing reported with
  | nil => simp [survey, Consulted.of]
  | cons site sites ih =>
      have unread : query.passesOver reported site = false := by
        simp [passesOver, isSated, many, Granularity.not_isPlaced_of_isSingleLane fine]
      rw [survey, unread, if_neg Bool.false_ne_true, Consulted.andThen_outcome_eq_error]
      simp only [ih]
      constructor
      · rintro (here | ⟨found, read, earlier, first, later, rfl, met, clear⟩)
        · exact ⟨[], site, sites, rfl, here, by simp⟩
        · refine ⟨site :: earlier, first, later, rfl, met, List.forall_mem_cons.mpr ⟨?_, clear⟩⟩
          simp [read]
      · rintro ⟨earlier, first, later, split, met, clear⟩
        cases earlier with
        | nil =>
            obtain ⟨rfl, -⟩ := List.cons.inj split
            exact .inl met
        | cons head earlier =>
            obtain ⟨rfl, rest⟩ := List.cons.inj split
            rw [List.forall_mem_cons] at clear
            cases read : (query.hits provider site).outcome with
            | error reason => exact (clear.1 reason read).elim
            | ok found => exact .inr ⟨found, rfl, earlier, first, later, rest, met, clear.2⟩

end Query

theorem Snapshot.mem_earlier_iff {snapshot : Snapshot} {earlier later : List Site} {site other : Site}
    (split : snapshot.sites = earlier ++ site :: later) :
    other ∈ earlier ↔ other ∈ snapshot.sites ∧ other.Before site := by
  have ascending := snapshot.sites_ascending
  rw [split] at ascending ⊢
  obtain ⟨-, above, between⟩ := List.pairwise_append.mp ascending
  constructor
  · intro member
    exact ⟨List.mem_append_left _ member, between other member site List.mem_cons_self⟩
  · rintro ⟨member, before⟩
    rcases List.mem_append.mp member with here | after
    · exact here
    · rcases List.mem_cons.mp after with rfl | behind
      · exact (before.asymm before).elim
      · exact (before.asymm ((List.pairwise_cons.mp above).1 other behind)).elim

namespace Query

variable {query : Query} {snapshot : Snapshot} {site : Site} {fault : QueryFault}

theorem survey_eq_error_iff_failsAt (fine : query.granularity.isSingleLane = true)
    (many : query.select.single = false) :
    (query.survey snapshot.provider snapshot.sites []).outcome = .error fault ↔
      ∃ site, query.FailsAt snapshot site fault := by
  rw [survey_eq_error_iff fine many]
  constructor
  · rintro ⟨earlier, site, later, split, met, clear⟩
    have member : site ∈ snapshot.sites := by
      rw [split]
      exact List.mem_append_right _ List.mem_cons_self
    obtain ⟨identifies, untold⟩ := (hits_eq_error_iff member).mp met
    refine ⟨site, identifies, untold, ?_⟩
    intro other before otherIdentifies reason otherUntold
    have otherMember := (identifies_iff.mp otherIdentifies).1
    exact clear other ((Snapshot.mem_earlier_iff split).mpr ⟨otherMember, before⟩) reason
      ((hits_eq_error_iff otherMember).mpr ⟨otherIdentifies, otherUntold⟩)
  · rintro ⟨site, identifies, untold, earliest⟩
    have member := (identifies_iff.mp identifies).1
    obtain ⟨earlier, later, split⟩ := List.append_of_mem member
    refine ⟨earlier, site, later, split, (hits_eq_error_iff member).mpr ⟨identifies, untold⟩, ?_⟩
    intro other otherEarlier reason met
    obtain ⟨otherMember, before⟩ := (Snapshot.mem_earlier_iff split).mp otherEarlier
    obtain ⟨otherIdentifies, otherUntold⟩ := (hits_eq_error_iff otherMember).mp met
    exact earliest other before otherIdentifies reason otherUntold

theorem FailsAt.congr {other : Query} (select : other.select = query.select)
    (places : other.filter.physical = query.filter.physical) (fails : query.FailsAt snapshot site fault) :
    other.FailsAt snapshot site fault := by
  have identifies (site : Site) : other.Identifies snapshot site ↔ query.Identifies snapshot site := by
    constructor <;> rintro ⟨inRange, runs, dev, sm, wp, reporting, current, broken⟩ <;> constructor <;> simp_all
  obtain ⟨needed, untold, earliest⟩ := fails
  refine ⟨(identifies site).mpr needed, untold, ?_⟩
  intro earlier before earlierNeeded
  exact earliest earlier before ((identifies earlier).mp earlierNeeded)

structure FailsFirst (query : Query) (snapshot : Snapshot) : Prop where
  ok_iff : (∃ set, (snapshot.provider.evaluate query).outcome = .ok set) ↔
    ∀ site, query.Identifies snapshot site → ∀ fault, ¬ snapshot.Untold site fault
  error_iff : ∀ fault, (snapshot.provider.evaluate query).outcome = .error fault ↔
    ∃ site, query.FailsAt snapshot site fault
  panics : ∀ site fault, query.FailsAt snapshot site fault → snapshot.kernelAt site = none →
    (snapshot.provider.evaluate query).outcome = .error (.unknownKernel site) ∧
      (Fault.query (.unknownKernel site)).isFinal = true ∧
      (QueryFault.unknownKernel site).message = "valid warp dev" ++ toString site.dev.toNat ++ ".sm" ++
        toString site.sm.toNat ++ ".wp" ++ toString site.wp.toNat ++ " runs an unknown kernel"
  refuses : ∀ site fault, query.FailsAt snapshot site fault → snapshot.kernelAt site ≠ none →
    (snapshot.provider.evaluate query).outcome =
        .error (.lookup (.gridNotFound site.dev (snapshot.warp site).grid)) ∧
      (Fault.query (.lookup (.gridNotFound site.dev (snapshot.warp site).grid))).isFinal = false
  /-- Neither the logical filter nor the order has a part in it, nor which of the two kinds of lanes is asked for. -/
  unfiltered : ∀ other : Query, other.granularity = .lanes ∨ other.granularity = .threads →
    other.select = query.select → other.filter.physical = query.filter.physical → ∀ fault,
      (snapshot.provider.evaluate other).outcome = .error fault ↔
        (snapshot.provider.evaluate query).outcome = .error fault
  /-- An answer is never cut short by a warp that was not identified. -/
  whole : ∀ set, (snapshot.provider.evaluate query).outcome = .ok set → ∀ coords, coords ∈ set.coords ↔
    snapshot.provider.Qualifies query coords

end Query

namespace Provider

variable {query : Query} {snapshot : Snapshot} {fault : QueryFault}

theorem evaluate_eq_error_iff_failsAt (fine : query.granularity = .lanes ∨ query.granularity = .threads)
    (many : query.select.single = false) : (snapshot.provider.evaluate query).outcome = .error fault ↔
      ∃ site, query.FailsAt snapshot site fault := by
  have singleLane := Query.isSingleLane_of_fine fine
  have answerable : query.isAnswerable = true := by
    rw [Query.isAnswerable, singleLane, Bool.or_true]
  rw [← Query.survey_eq_error_iff_failsAt singleLane many]
  constructor
  · intro refused
    cases surveyed : (query.survey snapshot.provider snapshot.sites []).outcome with
    | ok reported =>
        rw [evaluate_eq_ok.mpr ⟨answerable, reported, surveyed, rfl⟩] at refused
        contradiction
    | error reason =>
        rw [evaluate_eq_error_of_survey answerable surveyed] at refused
        exact congrArg _ (Except.error.inj refused)
  · exact evaluate_eq_error_of_survey answerable

theorem exists_evaluate_eq_ok_iff (fine : query.granularity = .lanes ∨ query.granularity = .threads)
    (many : query.select.single = false) : (∃ set, (snapshot.provider.evaluate query).outcome = .ok set) ↔
      ∀ site, query.Identifies snapshot site → ∀ fault, ¬ snapshot.Untold site fault := by
  constructor
  · rintro ⟨set, answered⟩ site identifies fault untold
    have member := (Query.identifies_iff.mp identifies).1
    have read := (lanes_of_evaluate (Query.isSingleLane_of_fine fine) many answered).1 site member
    rw [Query.Reads, (Query.hits_eq_error_iff member).mpr ⟨identifies, untold⟩] at read
    contradiction
  · intro told
    cases outcome : (snapshot.provider.evaluate query).outcome with
    | ok set => exact ⟨set, rfl⟩
    | error fault =>
        obtain ⟨site, fails⟩ := (evaluate_eq_error_iff_failsAt fine many).mp outcome
        exact (told site fails.identifies fault fails.untold).elim

theorem evaluate_failsFirst (snapshot : Snapshot) (query : Query)
    (fine : query.granularity = .lanes ∨ query.granularity = .threads) (many : query.select.single = false) :
    query.FailsFirst snapshot := by
  have error_iff (fault : QueryFault) : (snapshot.provider.evaluate query).outcome = .error fault ↔
      ∃ site, query.FailsAt snapshot site fault := evaluate_eq_error_iff_failsAt fine many
  have refused {site : Site} {fault : QueryFault} (fails : query.FailsAt snapshot site fault) :
      (snapshot.provider.evaluate query).outcome = .error fault := (error_iff fault).mpr ⟨site, fails⟩
  refine ⟨exists_evaluate_eq_ok_iff fine many, error_iff, ?_, ?_, ?_, ?_⟩
  · intro site fault fails unknown
    have outcome := refused fails
    cases fails.untold with
    | stranger => exact ⟨outcome, rfl, rfl⟩
    | unrecorded known =>
        rw [unknown] at known
        contradiction
  · intro site fault fails someKernel
    have outcome := refused fails
    cases fails.untold with
    | stranger unknown => exact (someKernel unknown).elim
    | unrecorded => exact ⟨outcome, rfl⟩
  · intro other otherFine select places fault
    rw [error_iff, evaluate_eq_error_iff_failsAt otherFine (select ▸ many)]
    apply exists_congr
    intro site
    exact ⟨Query.FailsAt.congr select.symm places.symm, Query.FailsAt.congr select places⟩
  · intro set answered coords
    exact mem_of_evaluate_iff fine many answered

end Provider

/-- Three warps at work: for a kernel that is known, for one whose record is lost, and for nobody. -/
def Snapshot.disowned : Snapshot :=
  let launch (kernel : KernelId) (grid : GridId) : Launch :=
    { kernel, dev := 0, grid, moduleId := 1, entry := 0x40, gridDim := ⟨1, 1, 1⟩, blockDim := ⟨2, 1, 1⟩,
      clusterDim := .zero, type := .application, origin := .cpu, parent := none }
  let launched := ((Snapshot.ofShape ⟨1, 1, 3, 2⟩).launch (launch 7 3)).launch (launch 8 4)
  let warps : List (Site × KernelId) := [(⟨0, 0, 0⟩, 7), (⟨0, 0, 1⟩, 8)]
  let working := warps.foldl
    (fun snapshot (site, kernel) => (snapshot.populate site kernel .zero 0 2).toOption.getD snapshot) launched
  let lost := (working.forgetGrid 0 4).changeWarp ⟨0, 0, 2⟩ fun warp => { warp with valid := true, grid := 9 }
  { lost with kernels := lost.kernels.invalidateAll }

/-- The filter names the kernel that is known, and the query fails at the warp after it all the same. -/
theorem Provider.disowned_failsFirst :
    (Snapshot.disowned.provider.evaluate { granularity := .lanes, filter := { logical := { kernel := .value 7 } } }).outcome =
        .error (.lookup (.gridNotFound 0 4)) ∧
      (Snapshot.disowned.provider.evaluate
        { granularity := .lanes, filter := { physical := { wp := .value 2 } } }).outcome =
          .error (.unknownKernel ⟨0, 0, 2⟩) ∧
      Query.FailsFirst { granularity := .lanes, filter := { logical := { kernel := .value 7 } } } Snapshot.disowned := by
  refine ⟨by cbv, by cbv, ?_⟩
  exact evaluate_failsFirst Snapshot.disowned _ (.inl rfl) rfl

end LaneScope
