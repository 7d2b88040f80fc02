import LaneScope.Proofs.Query.Units

/-!
Answers with a single unit.  A query for a single unit ends at the first hit of its listing.  Main statement: where the
query without that criterion is answered, its single unit heads the full answer, if units are told by their place, and
for kernels and blocks it is the unit of the first lane that qualifies.
-/

namespace LaneScope

structure Provider.IsHead (provider : Provider) (query : Query) (full single : CoordSet) : Prop where
  size_le : single.coords.size ≤ 1
  isEmpty_iff : single.coords = #[] ↔ full.coords = #[]
  mem : ∀ unit ∈ single.coords, unit ∈ full.coords
  first : query.granularity ∈ [.devices, .sms, .warps, .lanes, .threads] → single.first? = full.first?
  least : query.granularity ∈ [.kernels, .blocks] → ∀ unit ∈ single.coords, ∃ coords,
    provider.Qualifies { query with granularity := .threads } coords ∧ unit = coords.project query.granularity ∧
      ∀ other, provider.Qualifies { query with granularity := .threads } other →
        (coords.physical.order other.physical).isLE = true

theorem Granularity.order_project {granularity : Granularity} {left right : Coords}
    (placed : granularity.isPlaced = true) (less : left.physical.order right.physical = .lt)
    (apart : granularity.unitOf left ≠ granularity.unitOf right) :
    (left.project granularity).physical.order (right.project granularity).physical = .lt := by
  simp only [Physical.order, Ordering.then_eq_lt] at less
  rcases less with dev | ⟨dev, sm | ⟨sm, wp | ⟨wp, -⟩⟩⟩
  · cases granularity <;> simp [Coords.project, keeps, Field.keep, Physical.order, dev]
  · have sameDev := Field.eq_of_order_eq dev
    cases granularity <;> simp_all [isPlaced, Coords.project, keeps, unitOf, Field.keep, Physical.order]
  · have sameDev := Field.eq_of_order_eq dev
    have sameSm := Field.eq_of_order_eq sm
    cases granularity <;> simp_all [isPlaced, Coords.project, keeps, unitOf, Field.keep, Physical.order]
  · have sameDev := Field.eq_of_order_eq dev
    have sameSm := Field.eq_of_order_eq sm
    have sameWp := Field.eq_of_order_eq wp
    cases granularity <;> simp_all [isPlaced, unitOf]

namespace Query

variable {query : Query} {provider : Provider}

def single (query : Query) : Query :=
  { query with select := query.select.add .single }

theorem hits_single (query : Query) (provider : Provider) : query.single.hits provider = query.hits provider := rfl

theorem report_nil (query : Query) (hit : Coords) : query.report [] hit = [hit.project query.granularity] := by
  simp [report, isAnswered, isSated, isAmong]

theorem project_mem_foldl_report (query : Query) (hit : Coords) (rest : List Coords) :
    hit.project query.granularity ∈ (hit :: rest).foldl query.report [] := by
  obtain ⟨added, extended, -⟩ := foldl_report_extends query rest [hit.project query.granularity]
  rw [List.foldl_cons, report_nil, extended]
  simp

theorem foldl_report_of_single (one : query.select.single = true) (hits : List Coords) :
    hits.foldl query.report [] = (hits.head?.map fun hit => hit.project query.granularity).toList := by
  cases hits with
  | nil => rfl
  | cons hit hits =>
      rw [List.foldl_cons, report_nil, foldl_report_of_isAnswered]
      · rfl
      · intro later _
        simp [isAnswered, isSated, one]

/-- Up to the first hit, a survey for a single unit reads the warps that the full survey reads, and then no more. -/
theorem survey_single {sites : List Site} {after : List Coords}
    (surveyed : (query.survey provider sites []).outcome = .ok after) :
    ∃ first, (query.single.survey provider sites []).outcome = .ok first := by
  induction sites with
  | nil => exact ⟨[], rfl⟩
  | cons site sites ih =>
      simp only [survey, passesOver_nil, Bool.false_eq_true, if_false, Consulted.andThen_outcome_eq_ok, hits_single]
        at surveyed ⊢
      obtain ⟨found, read, rest⟩ := surveyed
      cases found with
      | nil =>
          obtain ⟨first, ended⟩ := ih rest
          exact ⟨first, [], read, ended⟩
      | cons hit found =>
          refine ⟨[hit.project query.granularity], hit :: found, read, ?_⟩
          rw [foldl_report_of_single rfl, survey_of_passesOver]
          · rfl
          · intro later _
            rfl

end Query

namespace CoordSet

theorem coords_collect_singleton (comparator : Comparator) (unit : Coords) :
    (collect comparator [unit]).coords = #[unit] := by
  simp [collect, Comparator.sort, withoutRepeats]

theorem first?_collect_toList (comparator : Comparator) (unit : Option Coords) :
    (collect comparator unit.toList).first? = unit := by
  cases unit <;> simp [first?, collect, Comparator.sort, withoutRepeats]

end CoordSet

namespace Query

variable {query : Query} {hit : Coords} {rest : List Coords}

/-- Where units are told by their place, the first hit gives the unit that comes first. -/
theorem first?_collect_foldl_report (many : query.select.single = false)
    (ascending : (hit :: rest).Pairwise fun left right => left.physical.order right.physical = .lt)
    (told : query.granularity.isSingleLane = true ∨ query.granularity.isPlaced = true) :
    (CoordSet.collect { addressing := .physical } ((hit :: rest).foldl query.report [])).first? =
      some (hit.project query.granularity) := by
  obtain ⟨before, -⟩ := List.pairwise_cons.mp ascending
  have isLE_self (coords : Coords) : (Comparator.compare { addressing := .physical } coords coords).isLE = true := by
    have same : Comparator.compare { addressing := .physical } coords coords = .eq := Std.ReflCmp.compare_self
    rw [same]
    rfl
  have isLE_of_order {left right : Coords} (less : left.physical.order right.physical = .lt) :
      (Comparator.compare { addressing := .physical } left right).isLE = true := by
    simp [Comparator.compare, Comparator.comparePhysical, less]
  apply CoordSet.first?_collect (project_mem_foldl_report query hit rest)
  intro other member
  rcases told with fine | placed
  · rw [foldl_report_of_isSingleLane fine many, List.append_nil] at member
    rw [Coords.project_of_isSingleLane fine]
    rcases List.mem_cons.mp (List.mem_reverse.mp member) with rfl | later
    · exact isLE_self other
    · exact isLE_of_order (before other later)
  · rw [mem_foldl_report (Granularity.not_isSingleLane_of_isPlaced placed) many] at member
    rcases member with old | ⟨first, isFirst, -, rfl⟩
    · simp at old
    · rcases isFirst_cons.mp isFirst with rfl | ⟨apart, later⟩
      · exact isLE_self _
      · exact isLE_of_order (Granularity.order_project placed (before first later.mem) apart)

end Query

namespace Provider

variable {provider : Provider} {query : Query} {full : CoordSet}

theorem eq_collect_of_evaluate (answered : (provider.evaluate query).outcome = .ok full) :
    full = .collect query.comparator ((query.listing provider).foldl query.report []) := by
  obtain ⟨-, reported, surveyed, rfl⟩ := evaluate_eq_ok.mp answered
  rw [Query.eq_foldl_of_survey surveyed]
  rfl

theorem first?_of_evaluate (fine : query.granularity.isSingleLane = true) (one : query.select.single = true)
    (answered : (provider.evaluate query).outcome = .ok full) : full.first? = (query.listing provider).head? := by
  have whole (unit : Coords) : unit.project query.granularity = unit := Coords.project_of_isSingleLane fine unit
  rw [eq_collect_of_evaluate answered, Query.foldl_report_of_single one, CoordSet.first?_collect_toList]
  simp [whole]

theorem evaluate_single (answered : (provider.evaluate query).outcome = .ok full) :
    (provider.evaluate query.single).outcome = .ok (.collect query.comparator
      ((query.listing provider).head?.map fun hit => hit.project query.granularity).toList) := by
  obtain ⟨answerable, reported, surveyed, -⟩ := evaluate_eq_ok.mp answered
  obtain ⟨first, ended⟩ := Query.survey_single surveyed
  rw [evaluate_eq_ok]
  refine ⟨answerable, first, ended, ?_⟩
  rw [Query.eq_foldl_of_survey ended, Query.foldl_report_of_single rfl]
  rfl

/-- The first hit of a listing by kernels or blocks is the first lane that the query for threads asks for. -/
theorem qualifies_head {hit : Coords} (logical : query.granularity ∈ [.kernels, .blocks])
    (heads : (query.listing provider).head? = some hit) :
    provider.Qualifies { query with granularity := .threads } hit ∧
      ∀ other, provider.Qualifies { query with granularity := .threads } other →
        (hit.physical.order other.physical).isLE = true := by
  have isLogical : query.granularity.isLogical = true := by
    simp only [List.mem_cons, List.not_mem_nil, or_false] at logical
    rcases logical with kind | kind <;> simp [kind, Granularity.isLogical]
  have hits : query.hits provider = Query.hits { query with granularity := .threads } provider := by
    apply Query.hits_congr
    · rfl
    · rfl
    · exact isLogical
  rw [Query.listing_congr hits] at heads
  exact head?_listing (.inr rfl) heads

theorem isHead_of_evaluate (many : query.select.single = false)
    (sequential : query.comparator = { addressing := .physical })
    (answered : (provider.evaluate query).outcome = .ok full) :
    provider.IsHead query full (.collect query.comparator
      ((query.listing provider).head?.map fun hit => hit.project query.granularity).toList) := by
  have whole := eq_collect_of_evaluate answered
  cases listed : query.listing provider with
  | nil =>
      rw [listed] at whole
      subst whole
      constructor <;> simp [CoordSet.collect, Comparator.sort, withoutRepeats]
  | cons hit rest =>
      have ascending := query.listing_ascending provider
      rw [listed] at whole ascending
      have member : hit.project query.granularity ∈ full.coords := by
        rw [whole, CoordSet.mem_collect]
        exact query.project_mem_foldl_report hit rest
      have head := CoordSet.coords_collect_singleton query.comparator (hit.project query.granularity)
      simp only [List.head?_cons, Option.map_some, Option.toList_some]
      refine ⟨?_, ?_, ?_, ?_, ?_⟩
      · simp [head]
      · rw [head]
        constructor
        · simp
        · intro empty
          simp [empty] at member
      · simp [head, member]
      · intro kind
        rw [CoordSet.first?, head, whole, sequential, Query.first?_collect_foldl_report many ascending]
        · rfl
        · simp only [List.mem_cons, List.not_mem_nil, or_false] at kind
          rcases kind with kind | kind | kind | kind | kind <;>
            simp [kind, Granularity.isPlaced, Granularity.isSingleLane]
      · intro logical unit found
        obtain ⟨qualified, least⟩ := qualifies_head logical (List.head?_eq_some_iff.mpr ⟨rest, listed⟩)
        rw [head] at found
        exact ⟨hit, qualified, by simpa using found, least⟩

theorem evaluate_isHead (provider : Provider) (granularity : Granularity) (filter : Coords) (select : Select)
    (many : select.single = false) {full : CoordSet}
    (answered : (provider.evaluate
      { granularity, filter, select, comparator := { addressing := .physical } }).outcome = .ok full) :
    ∃ single, (provider.evaluate
        { granularity, filter, select := select.add .single, comparator := { addressing := .physical } }).outcome =
          .ok single ∧
      provider.IsHead { granularity, filter, select, comparator := { addressing := .physical } } full single :=
  ⟨_, evaluate_single answered, isHead_of_evaluate many rfl answered⟩

end Provider

/-- A multiprocessor whose first warp runs the second of two blocks. -/
def Snapshot.crossed : Snapshot :=
  let launched := (Snapshot.ofShape ⟨1, 1, 2, 1⟩).launch
    { kernel := 7, dev := 0, grid := 3, moduleId := 1, entry := 0x40, gridDim := ⟨2, 1, 1⟩, blockDim := ⟨1, 1, 1⟩,
      clusterDim := .zero, type := .application, origin := .cpu, parent := none }
  let warps : List (Site × Dim3) := [(⟨0, 0, 0⟩, ⟨1, 0, 0⟩), (⟨0, 0, 1⟩, .zero)]
  warps.foldl (fun snapshot (site, block) => (snapshot.populate site 7 block 0 1).toOption.getD snapshot) launched

theorem Provider.crossed_isHead : ∃ full,
    (Snapshot.crossed.provider.evaluate
      { granularity := .blocks, comparator := { addressing := .physical } }).outcome = .ok full ∧
    full.coords.size = 2 ∧ ∃ single,
      (Snapshot.crossed.provider.evaluate
        { granularity := .blocks, select := Select.add {} .single, comparator := { addressing := .physical } }).outcome =
          .ok single ∧
      Snapshot.crossed.provider.IsHead { granularity := .blocks, comparator := { addressing := .physical } } full single := by
  refine ⟨_, by cbv, by rfl, ?_⟩
  exact Provider.evaluate_isHead Snapshot.crossed.provider .blocks .wild {} rfl (by cbv)

end LaneScope
