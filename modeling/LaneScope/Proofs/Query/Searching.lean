import Mathlib
import LaneScope.Proofs.Query.SingleUnit

/-!
Searching answers.  The coordinates of an answer ascend strictly in its own order, so a bisection finds each of them
and nothing else.  Main statement: every answer can be searched, the walk behind it found no unit twice, and no other
order of the results would have given other ones.
-/

namespace LaneScope

theorem withoutRepeats_of_nodup {listing : List Coords} (distinct : listing.Nodup) :
    withoutRepeats listing = listing := by
  fun_induction withoutRepeats listing with
  | case1 first rest ih => simp at distinct
  | case2 first second rest apart ih => rw [ih (List.nodup_cons.mp distinct).2]
  | case3 short => rfl

namespace CoordSet

variable {set : CoordSet} {target : Coords} {low high : Nat} {inside : high ≤ set.coords.size}

def Ascends (set : CoordSet) : Prop :=
  set.coords.toList.Pairwise fun left right => set.comparator.compare left right = .lt

theorem Ascends.compare_isLE (ascends : set.Ascends) {index other : Nat} (bound : index < set.coords.size)
    (otherBound : other < set.coords.size) (notAfter : index ≤ other) :
    (set.comparator.compare set.coords[index] set.coords[other]).isLE = true := by
  rcases Nat.lt_or_eq_of_le notAfter with before | rfl
  · have less : set.comparator.compare set.coords[index] set.coords[other] = .lt :=
      List.pairwise_iff_getElem.mp ascends index other bound otherBound before
    rw [less]
    rfl
  · have same : set.comparator.compare set.coords[index] set.coords[index] = .eq := Std.ReflCmp.compare_self
    rw [same]
    rfl

theorem mem_of_bisect (found : set.bisect target low high inside = true) : target ∈ set.coords := by
  fun_induction set.bisect target low high inside with
  | case1 low high inside room bound decided =>
      rw [← Std.LawfulEqCmp.eq_of_compare decided]
      exact Array.getElem_mem bound
  | case2 low high inside room bound decided ih => exact ih found
  | case3 low high inside room bound decided ih => exact ih found
  | case4 => contradiction

/-- As long as the place of the target lies between the bounds, the half that is given up does not have it. -/
theorem bisect_of_place (ascends : set.Ascends) {place : Nat} (bound : place < set.coords.size)
    (above : low ≤ place) (below : place < high) : set.bisect set.coords[place] low high inside = true := by
  fun_induction set.bisect set.coords[place] low high inside with
  | case1 => rfl
  | case2 low high inside room middle decided ih =>
      apply ih _ below
      by_contra notAbove
      have ordered := ascends.compare_isLE bound middle (by omega)
      rw [set.comparator.compare_swap, decided] at ordered
      contradiction
  | case3 low high inside room middle decided ih =>
      apply ih above
      by_contra notBelow
      have ordered := ascends.compare_isLE middle bound (by omega)
      rw [decided] at ordered
      contradiction
  | case4 low high inside closed => omega

theorem contains_iff (ascends : set.Ascends) : set.contains target = true ↔ target ∈ set.coords := by
  constructor
  · exact mem_of_bisect
  · intro member
    obtain ⟨place, bound, rfl⟩ := Array.mem_iff_getElem.mp member
    exact bisect_of_place ascends bound (Nat.zero_le place) bound

end CoordSet

namespace Query

variable {query : Query} {provider : Provider} {found : List Coords}

theorem report_distinct (coarse : query.granularity.isSingleLane = false) {reported : List Coords}
    (distinct : (reported.map query.granularity.unitOf).Nodup) (hit : Coords) :
    ((query.report reported hit).map query.granularity.unitOf).Nodup := by
  rw [report]
  split
  · exact distinct
  · rename_i unanswered
    rw [List.map_cons, List.nodup_cons, Granularity.unitOf_project]
    refine ⟨?_, distinct⟩
    intro member
    obtain ⟨unit, unitMember, same⟩ := List.mem_map.mp member
    apply unanswered
    simp only [isAnswered, isAmong, coarse, Bool.not_false, Bool.true_and, Bool.or_eq_true, List.any_eq_true,
      beq_iff_eq]
    exact .inr ⟨unit, unitMember, same.symm⟩

theorem foldl_report_distinct (coarse : query.granularity.isSingleLane = false) (hits : List Coords)
    {reported : List Coords} (distinct : (reported.map query.granularity.unitOf).Nodup) :
    ((hits.foldl query.report reported).map query.granularity.unitOf).Nodup := by
  induction hits generalizing reported with
  | nil => exact distinct
  | cons hit hits ih => exact ih (report_distinct coarse distinct hit)

theorem eq_foldl_of_walk (walked : (query.walk provider).outcome = .ok found) :
    found = (query.listing provider).foldl query.report [] := by
  rw [walk_eq_survey] at walked
  exact eq_foldl_of_survey walked

theorem walk_with_comparator (query : Query) (comparator : Comparator) (provider : Provider) :
    Query.walk { query with comparator } provider = query.walk provider := by
  have surveys (sites : List Site) (reported : List Coords) :
      Query.survey { query with comparator } provider sites reported = query.survey provider sites reported := by
    induction sites generalizing reported with
    | nil => rfl
    | cons site sites ih =>
        simp only [survey, ih]
        rfl
  rw [walk_eq_survey, walk_eq_survey, surveys]

/-- A walk finds nothing twice.  Single lanes are met once each, and coarser units are told apart by what is reported
of them. -/
theorem walk_nodup (walked : (query.walk provider).outcome = .ok found) : found.Nodup := by
  obtain rfl := eq_foldl_of_walk walked
  cases fine : query.granularity.isSingleLane with
  | false => exact .of_map query.granularity.unitOf (foldl_report_distinct fine _ List.nodup_nil)
  | true =>
      cases single : query.select.single with
      | true =>
          rw [foldl_report_of_single single]
          cases (query.listing provider).head? <;> simp
      | false =>
          rw [foldl_report_of_isSingleLane fine single, List.append_nil, List.nodup_reverse]
          exact query.listing_nodup provider

end Query

namespace CoordSet

theorem ascends_collect (comparator : Comparator) (listing : List Coords) : (collect comparator listing).Ascends :=
  collect_ascending comparator listing

theorem toList_collect_of_nodup (comparator : Comparator) {listing : List Coords} (distinct : listing.Nodup) :
    (collect comparator listing).coords.toList = comparator.sort listing := by
  have sorted : (comparator.sort listing).Nodup := (List.mergeSort_perm listing _).nodup_iff.mpr distinct
  rw [collect, List.toList_toArray, withoutRepeats_of_nodup sorted]

end CoordSet

namespace Provider

variable {provider : Provider} {query : Query} {set : CoordSet}

structure IsSearchable (provider : Provider) (query : Query) (set : CoordSet) : Prop where
  comparator : set.comparator = query.comparator
  ascends : set.Ascends
  contains_iff : ∀ coords, set.contains coords = true ↔ coords ∈ set.coords
  /-- The walk finds nothing twice, so the answer is what it found, put in order. -/
  complete : ∃ found, (query.walk provider).outcome = .ok found ∧ found.Nodup ∧
    set.coords.toList = query.comparator.sort found
  /-- In any other order that can be had, the answer has the same coordinates. -/
  reorder : ∀ comparator, Query.isAnswerable { query with comparator } = true → ∃ other,
    (provider.evaluate { query with comparator }).outcome = .ok other ∧
      other.coords.toList.Perm set.coords.toList

theorem walk_of_evaluate (answered : (provider.evaluate query).outcome = .ok set) :
    ∃ found, (query.walk provider).outcome = .ok found ∧ set = .collect query.comparator found := by
  obtain ⟨-, found, surveyed, rfl⟩ := evaluate_eq_ok.mp answered
  rw [← Query.walk_eq_survey] at surveyed
  exact ⟨found, surveyed, rfl⟩

theorem evaluate_of_walk {found : List Coords} (answerable : query.isAnswerable = true)
    (walked : (query.walk provider).outcome = .ok found) :
    (provider.evaluate query).outcome = .ok (.collect query.comparator found) := by
  rw [Query.walk_eq_survey] at walked
  exact evaluate_eq_ok.mpr ⟨answerable, found, walked, rfl⟩

theorem evaluate_isSearchable (provider : Provider) (query : Query) {set : CoordSet}
    (answered : (provider.evaluate query).outcome = .ok set) : provider.IsSearchable query set := by
  obtain ⟨found, walked, rfl⟩ := walk_of_evaluate answered
  have distinct := Query.walk_nodup walked
  have ascends := CoordSet.ascends_collect query.comparator found
  refine ⟨rfl, ascends, fun coords => CoordSet.contains_iff ascends, ?_, ?_⟩
  · exact ⟨found, walked, distinct, CoordSet.toList_collect_of_nodup query.comparator distinct⟩
  · intro comparator answerable
    rw [← Query.walk_with_comparator query comparator] at walked
    refine ⟨_, evaluate_of_walk answerable walked, ?_⟩
    exact (CoordSet.collect_perm comparator distinct).trans (CoordSet.collect_perm query.comparator distinct).symm

/-- The active lanes, the nearest to a lane between them first. -/
theorem halfIdle_isSearchable : ∃ set,
    (Snapshot.halfIdle.provider.evaluate
      { granularity := .lanes, select := { active := true },
        comparator := ⟨.physical, some { physical := { sm := .value 1, wp := .value 1, ln := .value 0 } }⟩ }).outcome =
          .ok set ∧
    set.coords.toList.map (fun coords => coords.physical) = [.lane 0 1 1 0, .lane 0 1 1 1, .lane 0 1 0 0] ∧
    Snapshot.halfIdle.provider.IsSearchable
      { granularity := .lanes, select := { active := true },
        comparator := ⟨.physical, some { physical := { sm := .value 1, wp := .value 1, ln := .value 0 } }⟩ } set := by
  refine ⟨_, by cbv, by cbv, ?_⟩
  exact evaluate_isSearchable Snapshot.halfIdle.provider _ (by cbv)

end Provider

end LaneScope
