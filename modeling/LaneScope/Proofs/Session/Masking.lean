import Mathlib
import LaneScope.Proofs.Query.Lanes
import LaneScope.Proofs.Query.Visibility
import LaneScope.Proofs.Session.Answers

/-!
Contents that are not looked at.  A warp that is not valid may still hold what it last ran, and so may a lane.  Main
statement: sessions that differ in such contents only, and in the statuses on record, give the same answers to queries.
-/

namespace LaneScope

namespace Session

variable {session other : Session}

/-- Without the link to the records, no query is told an extent that is not kept. -/
theorem evaluate_of_showsSame (same : session.snapshot.ShowsSame other.snapshot)
    (outage : session.outage = other.outage) (query : Query) :
    session.provider.evaluate query = other.provider.evaluate query := by
  obtain ⟨snapshot, reason⟩ := session
  obtain ⟨otherSnapshot, otherReason⟩ := other
  obtain rfl : reason = otherReason := outage
  cases reason with
  | none => exact Provider.evaluate_of_showsSame same same.clusterDim_eq query
  | some reason =>
      apply Provider.evaluate_of_showsSame
      · exact same
      · intro kernel
        rfl

/-- What is masked shows neither in an answer, nor in a fault, nor in the kernels that are asked for an extent. -/
theorem masked_unobserved (same : session.snapshot.ShowsSame other.snapshot)
    (outage : session.outage = other.outage) :
    (∀ query, other.provider.evaluate query = session.provider.evaluate query) ∧
      ∀ step query, session.poses step = some query →
        (other.perform step).answer = (session.perform step).answer := by
  have evaluate (query : Query) : other.provider.evaluate query = session.provider.evaluate query :=
    (evaluate_of_showsSame same outage query).symm
  refine ⟨evaluate, ?_⟩
  intro step query posed
  exact answer_of_poses evaluate same.shape.symm (by rw [same.kernels]) posed

end Session

namespace Snapshot

/-- A multiprocessor that is not valid, and one with a warp whose lanes are active, idle and not valid. -/
def patchy : Snapshot :=
  let launched := (ofShape ⟨1, 2, 2, 3⟩).launch
    { kernel := 7, dev := 0, grid := 3, moduleId := 1, entry := 0x40, gridDim := ⟨1, 1, 1⟩, blockDim := ⟨3, 1, 1⟩,
      clusterDim := .zero, type := .application, origin := .cpu, parent := none }
  let populated := [⟨0, 0, 0⟩, ⟨0, 1, 0⟩].foldl
    (fun snapshot site => (snapshot.populate site 7 .zero 0 1).toOption.getD snapshot) launched
  (populated.changeSm 0 0 fun sm => { sm with valid := false }).changeLane ⟨0, 1, 0⟩ 2
    fun lane => { lane with valid := false }

/-- The same with other contents wherever they are masked, of the grid of an unknown kernel among them. -/
def scribbled : Snapshot :=
  let scribble (lane : Lane) : Lane := { lane with pc := 0x99, exception := some .warpAssert }
  let busy (lane : Lane) : Lane := { scribble lane with active := !lane.active, thread := ⟨9, 9, 9⟩ }
  let warps := (patchy.changeWarp ⟨0, 0, 0⟩ fun warp => { warp with valid := false, block := ⟨5, 5, 5⟩ }).changeWarp
    ⟨0, 1, 1⟩ fun warp => { warp with grid := 8, cluster := ⟨5, 5, 5⟩ }
  let lanes := (((warps.changeLane ⟨0, 1, 1⟩ 1 fun lane => { busy lane with valid := true }).changeLane
    ⟨0, 1, 0⟩ 2 busy).changeLane ⟨0, 1, 0⟩ 1 scribble)
  lanes.setGridStatus 0 3 .terminated

theorem patchy_showsSame_scribbled : patchy.ShowsSame scribbled := by
  have warps : ∀ site ∈ patchy.sites,
      ((patchy.warp site).broken = (scribbled.warp site).broken ∧
        (patchy.warp site).timestamp = (scribbled.warp site).timestamp ∧
        ((patchy.sm (site.dev, site.sm)).valid = true → (patchy.warp site).valid = (scribbled.warp site).valid)) ∧
      (patchy.warpValid site = true → (patchy.warp site).grid = (scribbled.warp site).grid ∧
        (patchy.warp site).block = (scribbled.warp site).block ∧
        (patchy.warp site).cluster = (scribbled.warp site).cluster) := by
    decide +kernel
  have lanes : ∀ site ∈ patchy.sites, (ordinals patchy.shape.lanes).Forall fun ln =>
      ((patchy.lane site ln).timestamp = (scribbled.lane site ln).timestamp ∧
        (patchy.warpValid site = true → (patchy.lane site ln).valid = (scribbled.lane site ln).valid)) ∧
      (patchy.laneValid site ln = true → (patchy.lane site ln).thread = (scribbled.lane site ln).thread ∧
        (patchy.lane site ln).active = (scribbled.lane site ln).active) ∧
      (patchy.laneActive site ln = true → (patchy.lane site ln).pc = (scribbled.lane site ln).pc ∧
        (patchy.lane site ln).exception = (scribbled.lane site ln).exception) := by
    decide +kernel
  refine ⟨rfl, rfl, rfl, ?_, fun _ _ _ => rfl, fun _ _ _ => rfl, ?_, ?_, ?_, ?_, ?_⟩
  · intro key
    change _ = (assign patchy.grid (0, 3) _ key).map _
    by_cases same : key = (0, 3)
    · rw [same]
      rfl
    · rw [assign, if_neg same]
  · intro site inRange
    exact (warps site (mem_sites.mpr inRange)).1
  · intro site inRange
    exact (warps site (mem_sites.mpr inRange)).2
  · intro site ln inRange
    obtain ⟨member, lnMember⟩ := hasLane_iff.mp inRange
    exact (List.forall_iff_forall_mem.mp (lanes site member) ln lnMember).1
  · intro site ln inRange
    obtain ⟨member, lnMember⟩ := hasLane_iff.mp inRange
    exact (List.forall_iff_forall_mem.mp (lanes site member) ln lnMember).2.1
  · intro site ln inRange
    obtain ⟨member, lnMember⟩ := hasLane_iff.mp inRange
    exact (List.forall_iff_forall_mem.mp (lanes site member) ln lnMember).2.2

end Snapshot

theorem Session.scribbled_unobserved :
    Snapshot.patchy.ShowsSame Snapshot.scribbled ∧
      (Snapshot.patchy.warp ⟨0, 0, 0⟩).valid ≠ (Snapshot.scribbled.warp ⟨0, 0, 0⟩).valid ∧
      (Snapshot.patchy.warp ⟨0, 1, 1⟩).grid ≠ (Snapshot.scribbled.warp ⟨0, 1, 1⟩).grid ∧
      [1, 2].Forall (fun ln => Snapshot.patchy.lane ⟨0, 1, 0⟩ ln ≠ Snapshot.scribbled.lane ⟨0, 1, 0⟩ ln) ∧
      Snapshot.patchy.grid (0, 3) ≠ Snapshot.scribbled.grid (0, 3) ∧
      (∃ set, (Snapshot.patchy.session.provider.evaluate { granularity := .lanes }).outcome = .ok set ∧
        set.coords.size = 12) ∧
      (∀ query, Snapshot.scribbled.session.provider.evaluate query = Snapshot.patchy.session.provider.evaluate query) ∧
      ∀ step query, Snapshot.patchy.session.poses step = some query →
        (Snapshot.scribbled.session.perform step).answer = (Snapshot.patchy.session.perform step).answer :=
  ⟨Snapshot.patchy_showsSame_scribbled, by decide, by decide, by decide, by decide, ⟨_, by cbv, by rfl⟩,
    masked_unobserved Snapshot.patchy_showsSame_scribbled rfl⟩

end LaneScope
