import Mathlib
import LaneScope.Proofs.Coord.Acceptance
import LaneScope.Proofs.Query.Lanes
import LaneScope.Proofs.Session.Answers

/-!
The lane at a breakpoint that lies nearest to an origin.  Distances are measured axis by axis, and where they leave two
lanes alike, on both sides of the origin or on an axis that it leaves open, the lower number decides.  Main statement:
the lane that is answered is a stopped one, nearer than all others, and without an answer no lane is stopped.
-/

namespace LaneScope

def Snapshot.StopsLane (snapshot : Snapshot) (site : Site) (ln : Ordinal) : Prop :=
  snapshot.ActsLane site ln ∧ snapshot.breakpoint (site.dev, (snapshot.lane site ln).pc) = true

/-- How far a place lies from the origin: the distances on the axes that the origin does not leave open, and then the
numbers of the place. -/
def Physical.remoteness (origin place : Physical) : List Nat :=
  origin.distances place ++ place.ranks

structure Provider.IsNearest (provider : Provider) (origin : Physical) (found : Option Coords) : Prop where
  none_iff : found = none ↔
    ∀ site ln, provider.snapshot.hasLane site ln = true → ¬ provider.snapshot.StopsLane site ln
  nearest : ∀ coords, found = some coords → ∃ site ln, provider.snapshot.hasLane site ln = true ∧
    provider.snapshot.StopsLane site ln ∧ coords.physical = .lane site.dev site.sm site.wp ln ∧
    provider.Resolves site ln coords.logical ∧
    ∀ other otherLn, provider.snapshot.hasLane other otherLn = true → provider.snapshot.StopsLane other otherLn →
      (other, otherLn) ≠ (site, ln) →
        origin.remoteness coords.physical < origin.remoteness (.lane other.dev other.sm other.wp otherLn)
  atOrigin : ∀ site ln, provider.snapshot.hasLane site ln = true → provider.snapshot.StopsLane site ln →
    origin = .lane site.dev site.sm site.wp ln → ∃ coords, found = some coords ∧ coords.physical = origin

namespace Physical

theorem length_remoteness (origin left right : Physical) :
    (origin.remoteness left).length = (origin.remoteness right).length := by
  simp only [remoteness, List.length_append, origin.length_distances left right, length_ranks]

theorem remoteness_injective {origin left right : Physical}
    (same : origin.remoteness left = origin.remoteness right) : left = right :=
  ranks_injective (List.append_inj same (origin.length_distances left right)).2

/-- Nothing is nearer to a lane than the lane itself. -/
theorem not_remoteness_lt_self {dev sm wp ln dev' sm' wp' ln' : Ordinal} :
    ¬ (lane dev sm wp ln).remoteness (lane dev' sm' wp' ln') < (lane dev sm wp ln).remoteness (lane dev sm wp ln) := by
  simp only [remoteness, distances, Field.distances, lane, reduceCtorEq, if_false, ranks, Field.rank, Field.position,
    distance, List.cons_append, List.nil_append, List.cons_lt_cons_iff, List.not_lt_nil, and_false, or_false]
  omega

end Physical

/-- The comparator that measures from an origin decides by remoteness, as long as the places differ. -/
theorem Comparator.compare_eq_lt_of_ne {origin left right : Coords} (apart : left.physical ≠ right.physical) :
    Comparator.compare ⟨.physical, some origin⟩ left right = .lt ↔
      origin.physical.remoteness left.physical < origin.physical.remoteness right.physical := by
  have undecided : origin.physical.remoteness left.physical ≠ origin.physical.remoteness right.physical :=
    mt Physical.remoteness_injective apart
  have length := origin.physical.length_remoteness left.physical right.physical
  rw [compare_eq_compareLex, ← compareLex_eq_lt]
  simp only [tuple, distances]
  rw [← Physical.remoteness, ← Physical.remoteness, compareLex_append length, Ordering.then_eq_lt]
  constructor
  · rintro (nearer | ⟨alike, -⟩)
    · exact nearer
    · exact (undecided (Std.LawfulEqCmp.eq_of_compare alike)).elim
  · exact .inl

namespace Provider

variable {provider : Provider} {origin : Coords} {set : CoordSet}

theorem admits_breakpointNear {snapshot : Snapshot} {site : Site} {ln : Ordinal} :
    (Focus.breakpointNear origin).Admits snapshot site ln ↔ snapshot.StopsLane site ln := by
  constructor
  · intro admitted
    exact admitted.breakpoint rfl
  · intro stopped
    have runs := stopped.1.1
    have place := Physical.wild_accepts (.lane site.dev site.sm site.wp ln)
    constructor <;> simp [Focus.breakpointNear, Coords.wild, place, runs, stopped.1, stopped.2]

theorem qualifies_breakpointNear {coords : Coords} : provider.Qualifies (Focus.breakpointNear origin) coords ↔
    ∃ site ln, provider.snapshot.hasLane site ln = true ∧ provider.snapshot.StopsLane site ln ∧
      coords.physical = .lane site.dev site.sm site.wp ln ∧ provider.Resolves site ln coords.logical := by
  simp only [Qualifies, admits_breakpointNear]
  constructor
  · rintro ⟨site, ln, address, inRange, stopped, resolved, -, rfl⟩
    exact ⟨site, ln, inRange, stopped, rfl, resolved⟩
  · rintro ⟨site, ln, inRange, stopped, place, resolved⟩
    refine ⟨site, ln, coords.logical, inRange, stopped, resolved, Logical.wild_accepts _, ?_⟩
    rw [← place]

theorem mem_listing_breakpointNear {coords : Coords} :
    coords ∈ (Focus.breakpointNear origin).listing provider ↔
      ∃ site ln, provider.snapshot.hasLane site ln = true ∧ provider.snapshot.StopsLane site ln ∧
        coords.physical = .lane site.dev site.sm site.wp ln ∧ provider.Resolves site ln coords.logical :=
  (mem_listing_iff (.inl rfl)).trans qualifies_breakpointNear

variable (answered : (provider.evaluate (Focus.breakpointNear origin)).outcome = .ok set)
include answered

theorem exists_resolves_of_stopsLane {site : Site} {ln : Ordinal}
    (inRange : provider.snapshot.hasLane site ln = true) (stopped : provider.snapshot.StopsLane site ln) :
    ∃ address, provider.Resolves site ln address := by
  obtain ⟨reads, -⟩ := lanes_of_evaluate rfl rfl answered
  have read := reads site (Snapshot.hasLane_iff.mp inRange).1
  exact Query.exists_resolves_of_admits (.inl rfl) read (admits_breakpointNear.mpr stopped)

theorem first?_eq_none_iff_of_breakpointNear : set.first? = none ↔
    ∀ site ln, provider.snapshot.hasLane site ln = true → ¬ provider.snapshot.StopsLane site ln := by
  obtain ⟨-, rfl⟩ := lanes_of_evaluate rfl rfl answered
  rw [CoordSet.first?_collect_eq_none, List.reverse_eq_nil_iff, List.eq_nil_iff_forall_not_mem]
  simp only [mem_listing_breakpointNear]
  constructor
  · intro none site ln inRange stopped
    obtain ⟨address, resolved⟩ := exists_resolves_of_stopsLane answered inRange stopped
    exact none ⟨.lane site.dev site.sm site.wp ln, address⟩ ⟨site, ln, inRange, stopped, rfl, resolved⟩
  · rintro none coords ⟨site, ln, inRange, stopped, -⟩
    exact none site ln inRange stopped

/-- Two stopped lanes of one place are the same lane, so the logical address never has to decide. -/
theorem nearest_of_breakpointNear {coords : Coords} (found : set.first? = some coords) :
    ∃ site ln, provider.snapshot.hasLane site ln = true ∧ provider.snapshot.StopsLane site ln ∧
      coords.physical = .lane site.dev site.sm site.wp ln ∧ provider.Resolves site ln coords.logical ∧
      ∀ other otherLn, provider.snapshot.hasLane other otherLn = true → provider.snapshot.StopsLane other otherLn →
        (other, otherLn) ≠ (site, ln) → origin.physical.remoteness coords.physical <
          origin.physical.remoteness (.lane other.dev other.sm other.wp otherLn) := by
  obtain ⟨-, collected⟩ := lanes_of_evaluate rfl rfl answered
  rw [collected] at found
  obtain ⟨member, least⟩ := CoordSet.least_of_first?_collect found
  simp only [List.mem_reverse, mem_listing_breakpointNear] at member least
  obtain ⟨site, ln, inRange, stopped, place, resolved⟩ := member
  refine ⟨site, ln, inRange, stopped, place, resolved, ?_⟩
  intro other otherLn otherInRange otherStopped different
  obtain ⟨address, otherResolved⟩ := exists_resolves_of_stopsLane answered otherInRange otherStopped
  have apart : coords.physical ≠ .lane other.dev other.sm other.wp otherLn := by
    intro same
    obtain ⟨rfl, rfl⟩ := Site.eq_of_lane_eq (place.symm.trans same)
    exact different rfl
  have less : Comparator.compare ⟨.physical, some origin⟩ coords
      ⟨.lane other.dev other.sm other.wp otherLn, address⟩ = .lt :=
    least _ ⟨other, otherLn, otherInRange, otherStopped, rfl, otherResolved⟩
      fun same => apart (congrArg Coords.physical same).symm
  rwa [Comparator.compare_eq_lt_of_ne apart] at less

theorem isNearest_of_evaluate : provider.IsNearest origin.physical set.first? := by
  refine ⟨first?_eq_none_iff_of_breakpointNear answered, fun _ => nearest_of_breakpointNear answered, ?_⟩
  intro site ln inRange stopped atOrigin
  cases found : set.first? with
  | none => exact ((first?_eq_none_iff_of_breakpointNear answered).mp found site ln inRange stopped).elim
  | some coords =>
      obtain ⟨near, nearLn, -, -, place, -, nearest⟩ := nearest_of_breakpointNear answered found
      refine ⟨coords, rfl, ?_⟩
      by_cases same : (site, ln) = (near, nearLn)
      · obtain ⟨rfl, rfl⟩ := Prod.mk.inj same
        rw [place, atOrigin]
      · have less := nearest site ln inRange stopped same
        rw [place, atOrigin] at less
        exact (Physical.not_remoteness_lt_self less).elim

end Provider

namespace Session

/-- The answer is the full coordinate of the nearest lane at a breakpoint. -/
theorem nearestAtBreakpoint_isNearest (session : Session) (origin : Coords) {answer : Answer}
    (answered : (session.read (.nearestAtBreakpoint origin)).answer = .ok answer) :
    ∃ found, answer = .coords found ∧ session.provider.IsNearest origin.physical found := by
  obtain ⟨set, evaluated, rfl⟩ := put_eq_ok.mp answered
  exact ⟨set.first?, rfl, Provider.isNearest_of_evaluate evaluated⟩

/-- Two warps with all lanes at a breakpoint, but for the one in the middle of the second warp. -/
def flanked : Session :=
  let launched := (Snapshot.ofShape ⟨1, 1, 2, 3⟩).launch
    { kernel := 7, dev := 0, grid := 3, moduleId := 1, entry := 0x40, gridDim := ⟨1, 1, 1⟩, blockDim := ⟨6, 1, 1⟩,
      clusterDim := .zero, type := .application, origin := .cpu, parent := none }
  let warps : List (Site × BitVec 32) := [(⟨0, 0, 0⟩, 0), (⟨0, 0, 1⟩, 3)]
  let working := warps.foldl
    (fun snapshot (site, first) => (snapshot.populate site 7 .zero first 3).toOption.getD snapshot) launched
  ((working.setBreakpoint 0 0x40 true).changeLane ⟨0, 0, 1⟩ 1 fun lane => { lane with pc := 0x48 }).session

/-- The origin is the lane in the middle, with its device left open.  Both neighbours are equally near. -/
theorem flanked_isNearest : ∃ coords,
    (flanked.read (.nearestAtBreakpoint { physical := ⟨.wildcard, .value 0, .value 1, .value 1⟩ })).answer =
      .ok (.coords (some coords)) ∧ coords.physical = .lane 0 0 1 0 ∧
    ∃ found, Answer.coords (some coords) = .coords found ∧
      flanked.provider.IsNearest ⟨.wildcard, .value 0, .value 1, .value 1⟩ found := by
  refine ⟨_, by cbv, by rfl, ?_⟩
  exact nearestAtBreakpoint_isNearest flanked
    { physical := ⟨.wildcard, .value 0, .value 1, .value 1⟩ } (by cbv)

end Session

end LaneScope
