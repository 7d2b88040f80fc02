import LaneScope.Proofs.Coord.Inclusion
import LaneScope.Proofs.Query.Faults
import LaneScope.Proofs.Query.Soundness

/-!
Queries in nearest-neighbour order.  Distances are measured between fully defined coordinates, so a query with an origin
is rejected if its granularity opens an axis.  Main statement: it is rejected exactly when projections to its granularity
are open somewhere, in the address that it orders by first or in the other one, and whatever it is answered with is fully
defined.
-/

namespace LaneScope

namespace Coords

variable {coords : Coords}

def definedFor (coords : Coords) : Addressing → Bool
  | .logical => coords.logical.fullyDefined
  | .physical => coords.physical.fullyDefined

theorem definedFor_of_fullyDefined (defined : coords.fullyDefined = true) (addressing : Addressing) :
    coords.definedFor addressing = true := by
  rw [fullyDefined, Bool.and_eq_true] at defined
  cases addressing with
  | logical => exact defined.2
  | physical => exact defined.1

theorem fullyDefined_physical_project (defined : coords.fullyDefined = true) (granularity : Granularity) :
    (coords.project granularity).physical.fullyDefined = granularity.isSingleLane := by
  have whole := definedFor_of_fullyDefined defined .physical
  cases granularity with
  | lanes | threads => exact whole
  | devices | sms | warps | kernels | blocks =>
      simp [Physical.fullyDefined, project, Granularity.keeps, Granularity.isSingleLane, Field.keep, Field.isWildcard]

theorem fullyDefined_logical_project (defined : coords.fullyDefined = true) (granularity : Granularity) :
    (coords.project granularity).logical.fullyDefined = granularity.keeps .thread := by
  have whole := definedFor_of_fullyDefined defined .logical
  cases granularity with
  | warps | lanes | blocks | threads => exact whole
  | devices | sms | kernels =>
      simp [Logical.fullyDefined, project, Granularity.keeps, Index3.keep, Index3.wildcard, Index3.hasWildcard,
        Field.isWildcard]

theorem fullyDefined_project (defined : coords.fullyDefined = true) (granularity : Granularity) :
    (coords.project granularity).fullyDefined = granularity.isSingleLane := by
  rw [fullyDefined, fullyDefined_physical_project defined, fullyDefined_logical_project defined]
  cases granularity <;> rfl

end Coords

namespace Query

variable {query : Query} {provider : Provider} {coords : Coords}

theorem fullyDefined_of_mem_listing (member : coords ∈ query.listing provider) : coords.fullyDefined = true := by
  obtain ⟨site, ln, address, -, -, resolved, -, rfl⟩ := Provider.qualifies_lanewise_iff.mpr member
  rw [Coords.fullyDefined, resolved.fullyDefined, Physical.fullyDefined_lane, Bool.and_true]

end Query

namespace Provider

variable {provider : Provider} {query : Query} {set : CoordSet} {addressing : Addressing} {granularity : Granularity}

def Rejects (provider : Provider) (query : Query) : Prop :=
  ∃ addressing granularity, (provider.evaluate query).outcome = .error (.partialOrigin addressing granularity)

theorem evaluate_eq_partialOrigin :
    (provider.evaluate query).outcome = .error (.partialOrigin addressing granularity) ↔
      query.isAnswerable = false ∧ addressing = query.comparator.addressing ∧ granularity = query.granularity := by
  constructor
  · intro rejected
    rcases evaluate_eq_error rejected with ⟨unanswerable, same⟩ | ⟨site, -, untold⟩
    · simpa [unanswerable] using same
    · obtain ⟨-, ⟨-, other⟩ | ⟨kernel, reason, -, -, other⟩⟩ := identity_eq_error.mp untold <;> contradiction
  · rintro ⟨unanswerable, rfl, rfl⟩
    simp [evaluate, unanswerable]

theorem rejects_iff : provider.Rejects query ↔ query.isAnswerable = false := by
  constructor
  · rintro ⟨addressing, granularity, rejected⟩
    exact (evaluate_eq_partialOrigin.mp rejected).1
  · intro unanswerable
    exact ⟨_, _, evaluate_eq_partialOrigin.mpr ⟨unanswerable, rfl, rfl⟩⟩

structure MeasuresDefined (provider : Provider) (query : Query) : Prop where
  rejects_iff_open : ∀ coords : Coords, coords.fullyDefined = true →
    (provider.Rejects query ↔ (coords.project query.granularity).fullyDefined = false)
  rejects_of_open : ∀ coords : Coords, coords.fullyDefined = true →
    (coords.project query.granularity).definedFor query.comparator.addressing = false → provider.Rejects query
  /-- What is open in the other address only is warps and blocks, in logical order. -/
  rejects_defined_iff : ∀ coords : Coords, coords.fullyDefined = true →
    ((provider.Rejects query ∧ (coords.project query.granularity).definedFor query.comparator.addressing = true) ↔
      query.comparator.addressing = .logical ∧ (query.granularity = .warps ∨ query.granularity = .blocks))
  named : ∀ addressing granularity,
    (provider.evaluate query).outcome = .error (.partialOrigin addressing granularity) →
      addressing = query.comparator.addressing ∧ granularity = query.granularity
  answered : ∀ set, (provider.evaluate query).outcome = .ok set → ∀ unit ∈ set.coords,
    unit.definedFor query.comparator.addressing = true ∧ unit.fullyDefined = true

theorem evaluate_measuresDefined (nearest : query.comparator.origin.isSome = true) :
    provider.MeasuresDefined query := by
  have answerable_eq : query.isAnswerable = query.granularity.isSingleLane := by
    rw [Query.isAnswerable, Option.isNone_eq_false_iff.mpr nearest, Bool.false_or]
  have rejects_iff_coarse : provider.Rejects query ↔ query.granularity.isSingleLane = false := by
    rw [rejects_iff, answerable_eq]
  refine ⟨?_, ?_, ?_, ?_, ?_⟩
  · intro coords defined
    rw [rejects_iff_coarse, Coords.fullyDefined_project defined]
  · intro coords defined opened
    rw [rejects_iff_coarse, ← Coords.fullyDefined_project defined]
    by_contra whole
    rw [Bool.not_eq_false] at whole
    rw [Coords.definedFor_of_fullyDefined whole] at opened
    contradiction
  · intro coords defined
    rw [rejects_iff_coarse]
    cases query.comparator.addressing with
    | physical =>
        rw [Coords.definedFor, Coords.fullyDefined_physical_project defined]
        simp
    | logical =>
        rw [Coords.definedFor, Coords.fullyDefined_logical_project defined]
        cases query.granularity <;> simp [Granularity.isSingleLane, Granularity.keeps]
  · intro addressing granularity rejected
    exact (evaluate_eq_partialOrigin.mp rejected).2
  · intro set answered unit member
    have fine : query.granularity.isSingleLane = true := answerable_eq ▸ (evaluate_eq_ok.mp answered).1
    obtain ⟨coords, listed, rfl⟩ := exists_mem_listing answered member
    have defined : (coords.project query.granularity).fullyDefined = true := by
      rw [Coords.fullyDefined_project (Query.fullyDefined_of_mem_listing listed), fine]
    exact ⟨Coords.definedFor_of_fullyDefined defined _, defined⟩

/-- Half of the warps are idle, and no launch has clusters. -/
theorem halfIdle_measuresDefined : ∃ set,
    (Snapshot.halfIdle.provider.evaluate
      { granularity := .lanes, comparator := ⟨.logical, some { logical := { kernel := .value 7 } }⟩ }).outcome =
        .ok set ∧
    set.coords.size = 8 ∧ Snapshot.halfIdle.provider.MeasuresDefined
      { granularity := .lanes, comparator := ⟨.logical, some { logical := { kernel := .value 7 } }⟩ } := by
  refine ⟨_, by cbv, by rfl, ?_⟩
  exact evaluate_measuresDefined rfl

/-- Warps have logical addresses of their own, and are rejected in logical order all the same. -/
theorem idle_rejects_undivided :
    ¬ ((Snapshot.ofShape ⟨1, 1, 1, 1⟩).provider.Rejects
        { granularity := .warps, comparator := ⟨.logical, some { physical := { dev := .value 0 } }⟩ } ↔
      ∃ coords : Coords, coords.fullyDefined = true ∧ (coords.project .warps).definedFor .logical = false) := by
  intro same
  obtain ⟨coords, defined, opened⟩ := same.mp (rejects_iff.mpr rfl)
  rw [Coords.definedFor, Coords.fullyDefined_logical_project defined] at opened
  contradiction

end Provider

end LaneScope
