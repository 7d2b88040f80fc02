import LaneScope.Coord.Granularity
import LaneScope.Proofs.Coord.Acceptance

/-!
Projections.  A projection opens whole axes and leaves the others as they are, so a projected filter looks at the axes
that are kept and at no others.  Main statement: to project is a closure of filters.  It only widens them, keeps their
order, and does nothing the second time; projections commute, and a projected filter takes a coordinate for its
projection.
-/

namespace LaneScope

namespace Field

variable {width : Nat}

theorem keep_accepts (filter candidate : Field width) (kept : Bool) :
    (filter.keep kept).accepts candidate = (!kept || filter.accepts candidate) := by
  cases kept <;> simp [keep]

theorem keep_accepts_keep (filter candidate : Field width) (kept : Bool) :
    (filter.keep kept).accepts (candidate.keep kept) = (!kept || filter.accepts candidate) := by
  cases kept <;> simp [keep]

theorem keep_keep (field : Field width) (kept also : Bool) : (field.keep kept).keep also = field.keep (kept && also) := by
  cases kept <;> cases also <;> rfl

end Field

namespace Index3

theorem keep_accepts (filter candidate : Index3) (kept : Bool) :
    (filter.keep kept).accepts candidate = (!kept || filter.accepts candidate) := by
  cases kept <;> simp [keep]

theorem keep_accepts_keep (filter candidate : Index3) (kept : Bool) :
    (filter.keep kept).accepts (candidate.keep kept) = (!kept || filter.accepts candidate) := by
  cases kept <;> simp [keep]

theorem keep_keep (index : Index3) (kept also : Bool) : (index.keep kept).keep also = index.keep (kept && also) := by
  cases kept <;> cases also <;> rfl

end Index3

namespace Coords

variable {filter candidate : Coords} {granularity : Granularity} {axis : Axis}

theorem accepts_iff : filter.accepts candidate = true ↔ ∀ axis, filter.acceptsOn candidate axis = true := by
  simp only [accepts, Physical.accepts, Logical.accepts, Bool.and_eq_true]
  constructor
  · rintro ⟨⟨⟨⟨dev, sm⟩, wp⟩, ln⟩, ⟨⟨⟨kernel, grid⟩, cluster⟩, block⟩, thread⟩ axis
    cases axis <;> assumption
  · intro passed
    exact ⟨⟨⟨⟨passed .dev, passed .sm⟩, passed .wp⟩, passed .ln⟩,
      ⟨⟨⟨passed .kernel, passed .grid⟩, passed .cluster⟩, passed .block⟩, passed .thread⟩

theorem accepts_self (coords : Coords) : coords.accepts coords = true := by
  rw [accepts, Physical.accepts_self, Logical.accepts_self, Bool.and_true]

theorem get_project_of_not_keeps (opened : granularity.keeps axis = false) (coords : Coords) :
    (coords.project granularity).get axis = wild.get axis := by
  cases axis <;> simp [project, get, opened, Field.keep, Index3.keep] <;> rfl

theorem project_project (coords : Coords) (granularity : Granularity) :
    (coords.project granularity).project granularity = coords.project granularity := by
  cases granularity <;> rfl

theorem project_comm (coords : Coords) (granularity other : Granularity) :
    (coords.project granularity).project other = (coords.project other).project granularity := by
  simp only [project, Field.keep_keep, Index3.keep_keep, Bool.and_comm]

theorem project_acceptsOn (filter candidate : Coords) (granularity : Granularity) (axis : Axis) :
    (filter.project granularity).acceptsOn candidate axis =
      (!granularity.keeps axis || filter.acceptsOn candidate axis) := by
  cases axis <;> simp only [acceptsOn, project, Field.keep_accepts, Index3.keep_accepts]

theorem acceptsOn_project (filter candidate : Coords) (granularity : Granularity) (axis : Axis) :
    (filter.project granularity).acceptsOn (candidate.project granularity) axis =
      (!granularity.keeps axis || filter.acceptsOn candidate axis) := by
  cases axis <;> simp only [acceptsOn, project, Field.keep_accepts_keep, Index3.keep_accepts_keep]

/-- A projected filter decides by the axes that are kept. -/
theorem project_accepts_iff : (filter.project granularity).accepts candidate = true ↔
    ∀ axis, granularity.keeps axis = true → filter.acceptsOn candidate axis = true := by
  rw [accepts_iff]
  refine forall_congr' fun axis => ?_
  rw [project_acceptsOn]
  cases granularity.keeps axis <;> simp

theorem project_accepts_project : (filter.project granularity).accepts (candidate.project granularity) =
    (filter.project granularity).accepts candidate := by
  rw [Bool.eq_iff_iff, accepts_iff, accepts_iff]
  refine forall_congr' fun axis => ?_
  rw [acceptsOn_project, project_acceptsOn]

theorem accepts_project (accepted : filter.accepts candidate = true) (granularity : Granularity) :
    (filter.project granularity).accepts (candidate.project granularity) = true := by
  rw [project_accepts_project, project_accepts_iff]
  intro axis _
  exact accepts_iff.mp accepted axis

theorem project_closure :
    (∀ (coords : Coords) (granularity : Granularity), (coords.project granularity).accepts coords = true) ∧
    (∀ (filter candidate : Coords) (granularity : Granularity), filter.accepts candidate = true →
      (filter.project granularity).accepts (candidate.project granularity) = true) ∧
    (∀ (coords : Coords) (granularity : Granularity),
      (coords.project granularity).project granularity = coords.project granularity) ∧
    (∀ (coords : Coords) (granularity other : Granularity),
      (coords.project granularity).project other = (coords.project other).project granularity) ∧
    ∀ (filter candidate : Coords) (granularity : Granularity), (filter.project granularity).accepts candidate = true ↔
      (filter.project granularity).accepts (candidate.project granularity) = true := by
  refine ⟨?_, ?_, project_project, project_comm, ?_⟩
  · intro coords granularity
    rw [project_accepts_iff]
    intro axis _
    exact accepts_iff.mp coords.accepts_self axis
  · intro filter candidate granularity accepted
    exact accepts_project accepted granularity
  · intro filter candidate granularity
    rw [project_accepts_project]

def widened : Coords where
  physical := .lane 0 1 2 3
  logical := ⟨.value 7, .value 3, .inapplicable, .ofDim3 ⟨1, 0, 0⟩, .ofDim3 ⟨5, 0, 0⟩⟩

/-- The warp and the lane are opened and no other axis is, so the projection is strictly wider. -/
theorem widened_closure : (widened.project .blocks).physical = ⟨.value 0, .value 1, .wildcard, .wildcard⟩ ∧
    (widened.project .blocks).logical = widened.logical ∧ (widened.project .blocks).accepts widened = true ∧
    widened.accepts (widened.project .blocks) = false ∧
    (widened.project .blocks).project .sms = (widened.project .sms).project .blocks := by
  obtain ⟨widens, -, -, commutes, -⟩ := project_closure
  exact ⟨rfl, rfl, widens widened .blocks, rfl, commutes widened .blocks .sms⟩

end Coords

end LaneScope
