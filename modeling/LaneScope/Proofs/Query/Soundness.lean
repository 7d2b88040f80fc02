import Mathlib
import LaneScope.Proofs.Coord.Projection
import LaneScope.Proofs.Query.SingleUnit

/-!
Answers and filters.  A walk tests a filter axis by axis while coordinates are still being put together; an answer goes
with the filter as a whole all the same.  Main statement: whatever the granularity, each coordinate of an answer is the
projection of a lane whose full coordinates the filter accepts and which meets the criteria.
-/

namespace LaneScope

def Granularity.lanewise (granularity : Granularity) : Granularity :=
  if granularity.isLogical then .threads else .lanes

def Query.lanewise (query : Query) : Query :=
  { query with granularity := query.granularity.lanewise }

namespace Granularity

theorem isLogical_lanewise (granularity : Granularity) : granularity.lanewise.isLogical = granularity.isLogical := by
  cases granularity <;> rfl

theorem lanewise_fine (granularity : Granularity) :
    granularity.lanewise = .lanes ∨ granularity.lanewise = .threads := by
  cases granularity <;> simp [lanewise, isLogical]

end Granularity

namespace Query

theorem hits_lanewise (query : Query) (provider : Provider) : query.lanewise.hits provider = query.hits provider := by
  apply hits_congr
  · rfl
  · rfl
  · exact query.granularity.isLogical_lanewise

theorem listing_lanewise (query : Query) (provider : Provider) :
    query.lanewise.listing provider = query.listing provider :=
  listing_congr (query.hits_lanewise provider)

end Query

namespace Provider

variable {provider : Provider} {query : Query} {set : CoordSet} {unit coords : Coords}

theorem Qualifies.accepts (qualified : provider.Qualifies query coords) : query.filter.accepts coords = true := by
  obtain ⟨site, ln, address, -, admitted, -, accepted, rfl⟩ := qualified
  rw [Coords.accepts, Bool.and_eq_true]
  exact ⟨admitted.place, accepted⟩

/-- The lanes that qualify are those in the listing, at any granularity. -/
theorem qualifies_lanewise_iff : provider.Qualifies query.lanewise coords ↔ coords ∈ query.listing provider := by
  rw [← query.listing_lanewise provider]
  exact (mem_listing_iff query.granularity.lanewise_fine).symm

theorem exists_mem_listing (answered : (provider.evaluate query).outcome = .ok set) (member : unit ∈ set.coords) :
    ∃ coords ∈ query.listing provider, unit = coords.project query.granularity := by
  rw [eq_collect_of_evaluate answered, CoordSet.mem_collect] at member
  obtain ⟨added, extended, fromListing⟩ := Query.foldl_report_extends query (query.listing provider) []
  rw [extended, List.append_nil] at member
  exact fromListing unit member

structure IsDue (provider : Provider) (query : Query) (unit : Coords) : Prop where
  lane : ∃ coords, provider.Qualifies query.lanewise coords ∧ query.filter.accepts coords = true ∧
    unit = coords.project query.granularity
  projected : unit.project query.granularity = unit
  accepted : (query.filter.project query.granularity).accepts unit = true
  opened : ∀ axis, query.granularity.keeps axis = false → unit.get axis = Coords.wild.get axis

theorem evaluate_isDue (provider : Provider) (query : Query) {set : CoordSet}
    (answered : (provider.evaluate query).outcome = .ok set) : ∀ unit ∈ set.coords, provider.IsDue query unit := by
  intro unit member
  obtain ⟨coords, listed, rfl⟩ := exists_mem_listing answered member
  have qualified := qualifies_lanewise_iff.mpr listed
  have accepted : query.filter.accepts coords = true := qualified.accepts
  exact {
    lane := ⟨coords, qualified, accepted, rfl⟩
    projected := coords.project_project query.granularity
    accepted := Coords.accepts_project accepted query.granularity
    opened := fun _ opened => Coords.get_project_of_not_keeps opened coords
  }

/-- The filter names one component of the block, which the second of the warps runs. -/
theorem crossed_isDue : ∃ set,
    (Snapshot.crossed.provider.evaluate
      { granularity := .blocks, select := { active := true, single := true },
        filter :=
          { logical := { cluster := .inapplicable, block := .axes (.value 0) .wildcard .wildcard } } }).outcome =
          .ok set ∧
    set.coords.size = 1 ∧ ∀ unit ∈ set.coords, Snapshot.crossed.provider.IsDue
      { granularity := .blocks, select := { active := true, single := true },
        filter :=
          { logical := { cluster := .inapplicable, block := .axes (.value 0) .wildcard .wildcard } } } unit := by
  refine ⟨_, by cbv, by rfl, ?_⟩
  exact evaluate_isDue Snapshot.crossed.provider _ (by cbv)

end Provider

end LaneScope
