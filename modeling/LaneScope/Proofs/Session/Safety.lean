import Mathlib
import LaneScope.Proofs.Query.Visibility
import LaneScope.Proofs.Session.Answers
import LaneScope.Proofs.Session.Course

/-!
Safety of sessions.  Main statement: in a session that a course reaches, every valid warp resolves to the registered
kernel that it was last put to work for, and a query meets no unit out of range and no unknown kernel.  It fails only
where its order is refused, or where the record of a registered kernel was forgotten.
-/

namespace LaneScope.Session

variable {session : Session} {history : History} {query : Query} {fault : Fault}

namespace Sound

variable (sound : Sound history session)
include sound

theorem kernelAt_of_valid {site : Site} (valid : (session.snapshot.warp site).valid = true) :
    ∃ kernel ∈ session.snapshot.kernels.kernels, session.snapshot.kernelAt site = some kernel ∧
      history.employer site = some kernel.id := by
  obtain ⟨-, launch, member, dev, grid, employed⟩ := sound.working site valid
  obtain ⟨kernel, kernelMember, rfl⟩ := KernelTable.mem_launches.mp member
  refine ⟨kernel, kernelMember, ?_, employed⟩
  rw [Snapshot.kernelAt, ← dev, ← grid]
  exact KernelTable.findGrid_of_mem sound.distinct kernelMember

/-- Every permitted edit is carried out.  In particular no exit meets a device out of range. -/
theorem edit_eq_ok {edit : Edit} (permitted : session.Permits (.edit edit)) :
    ∃ answer, (session.edit edit).answer = .ok answer := by
  cases edit with
  | addFunction =>
      obtain ⟨snapshot, added⟩ := permitted
      simp [Session.edit, added]
  | exitKernel id =>
      cases found : session.snapshot.kernels.find? id with
      | none => simp [Session.edit, found]
      | some kernel =>
          have member := (KernelTable.find?_eq_some.mp found).1
          have present : session.snapshot.hasDevice kernel.dev = true :=
            sound.device _ (KernelTable.launch_mem_launches member)
          simp [Session.edit, found, present]
  | populate =>
      obtain ⟨inRange, kernel, found, -, fit⟩ := permitted
      simp [Session.edit, Snapshot.populate_eq_ok.mpr ⟨_, found, inRange, fit, rfl⟩]
  | setBreakpoint | setSm | setLane =>
      simp only [Permits] at permitted
      simp [Session.edit, Session.change, permitted]
  | setWarp => simp [Session.edit, Session.change, permitted.1]
  | launch | setGridStatus | forgetGrid | setClock | invalidate | setOutage => exact ⟨_, rfl⟩

/-- A step that puts a query fails only where the query does. -/
theorem eq_query_of_poses {step : Step} (posed : session.poses step = some query)
    (refused : (session.perform step).answer = .error fault) :
    ∃ reason, (session.snapshot.provider.evaluate query).outcome = .error reason ∧ fault = .query reason := by
  have provider : session.provider = session.snapshot.provider := by
    rw [Session.provider, sound.linked]
  rw [← provider]
  cases step with
  | edit edit => simp [poses] at posed
  | read reading =>
      cases reading with
      | query | firstValidThread | firstTrap | firstException | nearestAtBreakpoint | logicalOf | physicalOf =>
          obtain rfl := Option.some.inj posed
          exact put_eq_error.mp refused
      | residentKernels =>
          obtain rfl := Option.some.inj posed
          exact residentKernels_eq_error.mp refused
      | _ => simp [poses] at posed
  | onKernel id kernelStep =>
      cases kernelStep with
      | smMask =>
          simp only [poses, Option.map_eq_some_iff] at posed
          obtain ⟨kernel, found, rfl⟩ := posed
          have member := (KernelTable.find?_eq_some.mp found).1
          have present : session.snapshot.hasDevice kernel.dev = true :=
            sound.device _ (KernelTable.launch_mem_launches member)
          simp only [perform, found, onKernel, present, if_true] at refused
          exact put_eq_error.mp refused
      | _ => simp [poses] at posed

/-- A valid warp whose identity cannot be told runs a kernel whose record was forgotten. -/
theorem eq_gridNotFound_of_identity {site : Site} {reason : QueryFault}
    (untold : session.snapshot.provider.identity site = .error reason) :
    ∃ kernel ∈ session.snapshot.kernels.kernels, reason = .lookup (.gridNotFound kernel.dev kernel.grid) ∧
      session.snapshot.grid (kernel.dev, kernel.grid) = none ∧ history.isForgotten kernel.dev kernel.grid = true := by
  obtain ⟨valid, found⟩ := Provider.identity_eq_error.mp untold
  rw [Snapshot.warpValid, Bool.and_eq_true] at valid
  obtain ⟨kernel, member, resolved, -⟩ := sound.kernelAt_of_valid valid.2
  rcases found with ⟨unknown, -⟩ | ⟨candidate, missing, told, refused, rfl⟩
  · rw [show session.snapshot.provider.snapshot = session.snapshot from rfl, resolved] at unknown
    contradiction
  · obtain rfl := Option.some.inj (resolved.symm.trans told)
    obtain ⟨-, absent, rfl⟩ := Provider.clusterDim_eq_error refused
    exact ⟨kernel, member, rfl, absent, sound.recorded _ (KernelTable.launch_mem_launches member) absent⟩

end Sound

structure Safe (session : Session) (history : History) : Prop where
  resolves : ∀ site, (session.snapshot.warp site).valid = true → session.snapshot.hasWarp site = true ∧
    ∃ kernel ∈ session.snapshot.kernels.kernels, session.snapshot.kernelAt site = some kernel ∧
      history.employer site = some kernel.id
  answers : ∀ step query fault, session.poses step = some query → (session.perform step).answer = .error fault →
    (query.isAnswerable = false ∧
      fault = .query (.partialOrigin query.comparator.addressing query.granularity)) ∨
    ∃ kernel ∈ session.snapshot.kernels.kernels, fault = .query (.lookup (.gridNotFound kernel.dev kernel.grid)) ∧
      session.snapshot.grid (kernel.dev, kernel.grid) = none ∧ history.isForgotten kernel.dev kernel.grid = true
  bounded : ∀ query other, session.snapshot.SameUnits other →
    session.snapshot.provider.evaluate query = other.provider.evaluate query

theorem Course.safe {shape : Shape} {history : History} (course : (Snapshot.ofShape shape).session.Course history) :
    ((Snapshot.ofShape shape).session.follow history).Safe history := by
  have sound := course.sound
  refine ⟨?_, ?_, ?_⟩
  · intro site valid
    exact ⟨(sound.working site valid).1, sound.kernelAt_of_valid valid⟩
  · intro step query fault posed refused
    obtain ⟨reason, failed, rfl⟩ := sound.eq_query_of_poses posed refused
    rcases Provider.evaluate_eq_error failed with ⟨unanswerable, rfl⟩ | ⟨site, -, untold⟩
    · exact .inl ⟨unanswerable, rfl⟩
    · obtain ⟨kernel, member, rfl, absent, forgotten⟩ := sound.eq_gridNotFound_of_identity untold
      exact .inr ⟨kernel, member, rfl, absent, forgotten⟩
  · intro query other same
    exact same.evaluate_eq query

end LaneScope.Session

namespace LaneScope

/-- A run that forgets the record of a grid while a warp works for its kernel. -/
def History.orphaning : History :=
  [.edit (.forgetGrid 0 3), .edit .invalidate, .edit (.populate ⟨0, 0, 0⟩ 7 .zero 0 1),
    .edit (.launch
      { kernel := 7, dev := 0, grid := 3, moduleId := 1, entry := 0x40, gridDim := ⟨1, 1, 1⟩, blockDim := ⟨1, 1, 1⟩,
        clusterDim := .zero, type := .application, origin := .cpu, parent := none })]

namespace Session

theorem Course.orphaning : (Snapshot.ofShape ⟨1, 1, 1, 1⟩).session.Course History.orphaning := by
  refine .step (.step (.step (.step .start _ ?_) _ ?_) _ ?_) _ ?_
  · exact ⟨rfl, rfl, rfl⟩
  · exact ⟨rfl, _, rfl, rfl, rfl⟩
  · trivial
  · trivial

theorem orphaning_safe :
    ((Snapshot.ofShape ⟨1, 1, 1, 1⟩).session.follow .orphaning).Safe .orphaning ∧
      (((Snapshot.ofShape ⟨1, 1, 1, 1⟩).session.follow .orphaning).perform (.read .firstValidThread)).answer =
        .error (.query (.lookup (.gridNotFound 0 3))) :=
  ⟨Course.safe .orphaning, by cbv⟩

end Session

end LaneScope
