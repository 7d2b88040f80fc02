import Mathlib
import LaneScope.Proofs.Coord.Acceptance
import LaneScope.Proofs.Query.SingleUnit
import LaneScope.Proofs.Session.Safety

/-!
The two addresses of a thread.  Asked for the logical address of a place and then for the place of that address, a
snapshot goes back to the first thread under the address.  Main statement: both ways of asking convert into each other,
and a place outside the snapshot has no logical address, unless its warp is there and cannot be told.
-/

namespace LaneScope

def Provider.HasThread (provider : Provider) (coords : Coords) : Prop :=
  ∃ site ln, provider.snapshot.hasLane site ln = true ∧ provider.snapshot.RunsLane site ln ∧
    provider.Resolves site ln coords.logical ∧ coords.physical = .lane site.dev site.sm site.wp ln

structure Snapshot.Converts (snapshot : Snapshot) : Prop where
  back : ∀ place address answer, place.fullyDefined = true →
    (snapshot.session.read (.logicalOf place)).answer = .ok (.logical (some address)) →
    (snapshot.session.read (.physicalOf address)).answer = .ok answer →
    ∃ first, answer = .physical (some first) ∧ (first.order place).isLE = true ∧
      (snapshot.session.read (.logicalOf first)).answer = .ok (.logical (some address)) ∧
      ((∀ other, snapshot.provider.HasThread ⟨other, address⟩ → other = place) → first = place)
  forth : ∀ address place, (snapshot.session.read (.physicalOf address)).answer = .ok (.physical (some place)) →
    ∃ told, snapshot.provider.HasThread ⟨place, told⟩ ∧
      (snapshot.session.read (.logicalOf place)).answer = .ok (.logical (some told)) ∧
      address.accepts told = true ∧ (address.fullyDefined = true → told = address)
  outside : ∀ site ln, snapshot.hasLane site ln = false →
    (∀ fault, snapshot.hasWarp site = true → snapshot.provider.identity site ≠ .error fault) →
    (snapshot.session.read (.logicalOf (.lane site.dev site.sm site.wp ln))).answer = .ok (.logical none)
  untold : ∀ site ln fault, snapshot.hasLane site ln = false → snapshot.hasWarp site = true →
    snapshot.provider.identity site = .error fault →
    (snapshot.session.read (.logicalOf (.lane site.dev site.sm site.wp ln))).answer = .error (.query fault)
  bounded : ∀ other, snapshot.SameUnits other → ∀ place,
    (snapshot.session.read (.logicalOf place)).answer = (other.session.read (.logicalOf place)).answer

/-- Asks for the first thread that the filter accepts, as both conversions do. -/
def Focus.threadIn (filter : Coords) : Query where
  granularity := .threads
  filter := filter
  select := { valid := true, single := true }

namespace Provider

variable {provider : Provider}

theorem HasThread.eq_of_physical_eq {coords other : Coords} (thread : provider.HasThread coords)
    (also : provider.HasThread other) (same : coords.physical = other.physical) : coords = other := by
  obtain ⟨site, ln, -, -, resolved, lane⟩ := thread
  obtain ⟨otherSite, otherLn, -, -, otherResolved, otherLane⟩ := also
  obtain ⟨rfl, rfl⟩ := Site.eq_of_lane_eq (lane.symm.trans (same.trans otherLane))
  obtain ⟨physical, logical⟩ := coords
  obtain ⟨otherPhysical, otherLogical⟩ := other
  exact congrArg₂ Coords.mk same (resolved.unique otherResolved)

theorem admits_threadIn {filter : Coords} {snapshot : Snapshot} {site : Site} {ln : Ordinal} :
    (Focus.threadIn filter).Admits snapshot site ln ↔
      filter.physical.accepts (.lane site.dev site.sm site.wp ln) = true ∧ snapshot.RunsLane site ln := by
  constructor
  · intro admitted
    exact ⟨admitted.place, admitted.valid rfl⟩
  · rintro ⟨accepted, runs⟩
    constructor <;> simp [Focus.threadIn, accepted, runs, runs.1]

theorem qualifies_threadIn {filter coords : Coords} : provider.Qualifies (Focus.threadIn filter) coords ↔
    provider.HasThread coords ∧ filter.accepts coords = true := by
  simp only [Qualifies, admits_threadIn, Coords.accepts, Bool.and_eq_true]
  constructor
  · rintro ⟨site, ln, address, inRange, ⟨placed, runs⟩, resolved, addressed, rfl⟩
    exact ⟨⟨site, ln, inRange, runs, resolved, rfl⟩, placed, addressed⟩
  · rintro ⟨⟨site, ln, inRange, runs, resolved, place⟩, placed, addressed⟩
    rw [place] at placed
    refine ⟨site, ln, coords.logical, inRange, ⟨placed, runs⟩, resolved, addressed, ?_⟩
    rw [← place]

structure IsFirstThread (provider : Provider) (filter first : Coords) : Prop where
  thread : provider.HasThread first
  accepted : filter.accepts first = true
  least : ∀ other, provider.HasThread other → filter.accepts other = true →
    (first.physical.order other.physical).isLE = true

theorem isFirstThread_of_evaluate {filter first : Coords} {set : CoordSet}
    (answered : (provider.evaluate (Focus.threadIn filter)).outcome = .ok set) (found : set.first? = some first) :
    provider.IsFirstThread filter first := by
  rw [first?_of_evaluate rfl rfl answered] at found
  obtain ⟨qualified, least⟩ := head?_listing (.inr rfl) found
  obtain ⟨thread, accepted⟩ := qualifies_threadIn.mp qualified
  refine ⟨thread, accepted, ?_⟩
  intro other otherThread otherAccepted
  exact least other (qualifies_threadIn.mpr ⟨otherThread, otherAccepted⟩)

theorem first?_eq_none {filter : Coords} {set : CoordSet}
    (answered : (provider.evaluate (Focus.threadIn filter)).outcome = .ok set) :
    set.first? = none ↔ ∀ coords, provider.HasThread coords → filter.accepts coords = false := by
  rw [first?_of_evaluate rfl rfl answered, head?_listing_eq_none (.inr rfl)]
  simp only [qualifies_threadIn, not_and, Bool.not_eq_true]

variable {site : Site} {ln : Ordinal}

theorem pins_threadOn : (Focus.threadOn (.lane site.dev site.sm site.wp ln)).Pins site :=
  ⟨rfl, rfl, rfl⟩

theorem enters_threadOn {snapshot : Snapshot} (valid : snapshot.warpValid site = true) :
    (Focus.threadOn (.lane site.dev site.sm site.wp ln)).enters snapshot site = true := by
  have runs := Snapshot.warpValid_iff.mp valid
  simp [Query.enters, Query.opensDevice, Query.opensSm, Query.opensWarp, Focus.threadOn, Physical.lane, valid, runs.1]

theorem evaluate_threadOn_eq_error {fault : QueryFault} (inRange : provider.snapshot.hasWarp site = true)
    (untold : provider.identity site = .error fault) :
    (provider.evaluate (Focus.threadOn (.lane site.dev site.sm site.wp ln))).outcome = .error fault := by
  have valid := (identity_eq_error.mp untold).1
  have met : ((Focus.threadOn (.lane site.dev site.sm site.wp ln)).hits provider site).outcome = .error fault :=
    Query.hits_eq_error.mpr ⟨enters_threadOn valid, untold⟩
  apply evaluate_eq_error_of_survey rfl
  exact Query.survey_eq_error_of_enters (fun _ _ => pins_threadOn.eq_of_enters) (Snapshot.mem_sites.mpr inRange) met

end Provider

namespace Snapshot

variable {snapshot : Snapshot} {place : Physical} {address : Logical} {coords : Coords}

theorem answer_logicalOf (snapshot : Snapshot) (place : Physical) : (snapshot.session.read (.logicalOf place)).answer =
    Session.reply (fun set => .logical (set.first?.map Coords.logical))
      (snapshot.provider.evaluate (Focus.threadOn place)).outcome :=
  Session.answer_put _ _ _

theorem logicalOf_eq_ok {answer : Answer} : (snapshot.session.read (.logicalOf place)).answer = .ok answer ↔
    ∃ set, (snapshot.provider.evaluate (Focus.threadOn place)).outcome = .ok set ∧
      answer = .logical (set.first?.map Coords.logical) :=
  Session.put_eq_ok

theorem physicalOf_eq_ok {answer : Answer} : (snapshot.session.read (.physicalOf address)).answer = .ok answer ↔
    ∃ set, (snapshot.provider.evaluate (Focus.threadOf address)).outcome = .ok set ∧
      answer = .physical (set.first?.map Coords.physical) :=
  Session.put_eq_ok

theorem logicalOf_of_hasThread (thread : snapshot.provider.HasThread coords) :
    (snapshot.session.read (.logicalOf coords.physical)).answer = .ok (.logical (some coords.logical)) := by
  have ⟨site, ln, _, _, resolved, lane⟩ := thread
  have defined : coords.physical.fullyDefined = true := by
    rw [lane]
    exact Physical.fullyDefined_lane ..
  obtain ⟨set, answered⟩ : ∃ set, (snapshot.provider.evaluate (Focus.threadOn coords.physical)).outcome = .ok set := by
    rw [lane]
    apply Provider.pins_threadOn.exists_evaluate rfl
    intro fault _ untold
    obtain ⟨identity, told, -⟩ := Provider.resolves_iff.mp resolved
    rw [untold] at told
    contradiction
  rw [logicalOf_eq_ok]
  refine ⟨set, answered, ?_⟩
  cases found : set.first? with
  | none =>
      have refused := (Provider.first?_eq_none answered).mp found coords thread
      rw [Coords.accepts_of_physical, Physical.accepts_self] at refused
      contradiction
  | some first =>
      have isFirst := Provider.isFirstThread_of_evaluate answered found
      have accepted := isFirst.accepted
      rw [Coords.accepts_of_physical] at accepted
      have same := isFirst.thread.eq_of_physical_eq thread (Physical.eq_of_accepts defined accepted).symm
      rw [same]
      rfl

theorem hasThread_of_logicalOf (defined : place.fullyDefined = true)
    (told : (snapshot.session.read (.logicalOf place)).answer = .ok (.logical (some address))) :
    snapshot.provider.HasThread ⟨place, address⟩ := by
  obtain ⟨set, answered, same⟩ := logicalOf_eq_ok.mp told
  obtain ⟨first, found, rfl⟩ := Option.map_eq_some_iff.mp (Answer.logical.inj same).symm
  have isFirst := Provider.isFirstThread_of_evaluate answered found
  have accepted := isFirst.accepted
  rw [Coords.accepts_of_physical] at accepted
  rw [Physical.eq_of_accepts defined accepted]
  exact isFirst.thread

theorem isFirstThread_of_physicalOf
    (told : (snapshot.session.read (.physicalOf address)).answer = .ok (.physical (some place))) :
    ∃ first, snapshot.provider.IsFirstThread { logical := address } first ∧ first.physical = place := by
  obtain ⟨set, answered, same⟩ := physicalOf_eq_ok.mp told
  obtain ⟨first, found, rfl⟩ := Option.map_eq_some_iff.mp (Answer.physical.inj same).symm
  exact ⟨first, Provider.isFirstThread_of_evaluate answered found, rfl⟩

/-- The first thread under the address of a thread has that address. -/
theorem physicalOf_of_hasThread {answer : Answer} (thread : snapshot.provider.HasThread coords)
    (told : (snapshot.session.read (.physicalOf coords.logical)).answer = .ok answer) :
    ∃ first, answer = .physical (some first) ∧ snapshot.provider.HasThread ⟨first, coords.logical⟩ ∧
      (first.order coords.physical).isLE = true := by
  have accepted : Coords.accepts { logical := coords.logical } coords = true := by
    rw [Coords.accepts_of_logical, Logical.accepts_self]
  obtain ⟨set, answered, rfl⟩ := physicalOf_eq_ok.mp told
  cases found : set.first? with
  | none =>
      have refused := (Provider.first?_eq_none answered).mp found coords thread
      rw [accepted] at refused
      contradiction
  | some first =>
      have isFirst := Provider.isFirstThread_of_evaluate answered found
      have addressed := isFirst.accepted
      rw [Coords.accepts_of_logical] at addressed
      have ⟨_, _, _, _, resolved, _⟩ := thread
      refine ⟨first.physical, rfl, ?_, isFirst.least coords thread accepted⟩
      rw [Logical.eq_of_accepts resolved.fullyDefined addressed]
      exact isFirst.thread

theorem logicalOf_of_outside {site : Site} {ln : Ordinal} (outside : snapshot.hasLane site ln = false)
    (told : ∀ fault, snapshot.hasWarp site = true → snapshot.provider.identity site ≠ .error fault) :
    (snapshot.session.read (.logicalOf (.lane site.dev site.sm site.wp ln))).answer = .ok (.logical none) := by
  obtain ⟨set, answered⟩ : ∃ set,
      (snapshot.provider.evaluate (Focus.threadOn (.lane site.dev site.sm site.wp ln))).outcome = .ok set :=
    Provider.pins_threadOn.exists_evaluate rfl told
  have found : set.first? = none := by
    apply (Provider.first?_eq_none answered).mpr
    rintro coords ⟨other, otherLn, inRange, -, -, lane⟩
    rw [Coords.accepts_of_physical, Bool.eq_false_iff]
    intro accepted
    have same := Physical.eq_of_accepts (Physical.fullyDefined_lane ..) accepted
    obtain ⟨rfl, rfl⟩ := Site.eq_of_lane_eq (same.trans lane)
    rw [show snapshot.provider.snapshot = snapshot from rfl, outside] at inRange
    contradiction
  rw [logicalOf_eq_ok, answered]
  exact ⟨set, rfl, by rw [found]; rfl⟩

theorem converts (snapshot : Snapshot) : snapshot.Converts := by
  constructor
  · intro place address answer defined told back
    have thread := hasThread_of_logicalOf defined told
    obtain ⟨first, rfl, isThread, least⟩ := physicalOf_of_hasThread thread back
    have again := logicalOf_of_hasThread isThread
    refine ⟨first, rfl, least, again, ?_⟩
    intro alone
    exact alone first isThread
  · intro address place told
    obtain ⟨first, isFirst, rfl⟩ := isFirstThread_of_physicalOf told
    have accepted := isFirst.accepted
    rw [Coords.accepts_of_logical] at accepted
    have again := logicalOf_of_hasThread isFirst.thread
    refine ⟨first.logical, isFirst.thread, again, accepted, ?_⟩
    intro defined
    exact (Logical.eq_of_accepts defined accepted).symm
  · intro site ln outside told
    exact logicalOf_of_outside outside told
  · intro site ln fault _ inRange untold
    rw [answer_logicalOf, Provider.evaluate_threadOn_eq_error inRange untold]
    rfl
  · intro other same place
    rw [answer_logicalOf, answer_logicalOf, same.evaluate_eq]

/-- A multiprocessor whose two warps run the same thread. -/
def twins : Snapshot :=
  let launched := (Snapshot.ofShape ⟨1, 1, 2, 1⟩).launch
    { kernel := 7, dev := 0, grid := 3, moduleId := 1, entry := 0x40, gridDim := ⟨1, 1, 1⟩, blockDim := ⟨1, 1, 1⟩,
      clusterDim := .zero, type := .application, origin := .cpu, parent := none }
  let sites : List Site := [⟨0, 0, 0⟩, ⟨0, 0, 1⟩]
  sites.foldl (fun snapshot site => (snapshot.populate site 7 .zero 0 1).toOption.getD snapshot) launched

theorem twins_converts : ∃ address,
    (twins.session.read (.logicalOf (.lane 0 0 1 0))).answer = .ok (.logical (some address)) ∧
    (twins.session.read (.physicalOf address)).answer = .ok (.physical (some (.lane 0 0 0 0))) ∧ twins.Converts :=
  ⟨_, by cbv, by cbv, converts twins⟩

/-- A device whose only warp is valid, with the record of its grid forgotten. -/
def orphaned : Snapshot :=
  ((Snapshot.ofShape ⟨1, 1, 1, 1⟩).session.follow .orphaning).snapshot

/-- A place that lacks only its lane has the fault of its warp. -/
theorem not_logicalOf_outside_eq_none : ¬ ∀ (snapshot : Snapshot) (site : Site) (ln : Ordinal),
    snapshot.hasLane site ln = false →
      (snapshot.session.read (.logicalOf (.lane site.dev site.sm site.wp ln))).answer = .ok (.logical none) := by
  intro always
  have claimed := always orphaned ⟨0, 0, 0⟩ 5 (by cbv)
  have answered : (orphaned.session.read (.logicalOf (.lane 0 0 0 5))).answer =
      .error (.query (.lookup (.gridNotFound 0 3))) := by
    cbv
  rw [answered] at claimed
  contradiction

end Snapshot

end LaneScope
