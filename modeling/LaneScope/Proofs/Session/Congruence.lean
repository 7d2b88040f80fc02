import LaneScope.Proofs.Device.Populate
import LaneScope.Proofs.Session.Answers
import LaneScope.Proofs.Session.Learning

/-!
Sessions that differ only in what was learnt.  Edits read the launches of kernels and nothing else that is kept about
them, so each step takes two such sessions to two such sessions again, and puts the same query.
-/

namespace LaneScope

namespace Snapshot.OnlyLearns

variable {before after : Snapshot}

section

variable (learns : before.OnlyLearns after)
include learns

theorem launch (launch : Launch) : (before.launch launch).OnlyLearns (after.launch launch) :=
  { learns with
    grid := by simp only [Snapshot.launch, learns.grid]
    launches := KernelTable.launches_insert_congr rfl learns.launches }

theorem setGridStatus (dev : Ordinal) (grid : GridId) (status : GridStatus) :
    (before.setGridStatus dev grid status).OnlyLearns (after.setGridStatus dev grid status) :=
  { learns with grid := by simp only [Snapshot.setGridStatus, learns.grid] }

theorem forgetGrid (dev : Ordinal) (grid : GridId) : (before.forgetGrid dev grid).OnlyLearns (after.forgetGrid dev grid) :=
  { learns with grid := by simp only [Snapshot.forgetGrid, learns.grid] }

theorem setClock (clock : Tick) : (before.setClock clock).OnlyLearns (after.setClock clock) :=
  { learns with clock := rfl }

theorem setBreakpoint (dev : Ordinal) (pc : Address) (present : Bool) :
    (before.setBreakpoint dev pc present).OnlyLearns (after.setBreakpoint dev pc present) :=
  { learns with breakpoint := by simp only [Snapshot.setBreakpoint, learns.breakpoint] }

theorem changeSm (dev sm : Ordinal) (change : Sm → Sm) :
    (before.changeSm dev sm change).OnlyLearns (after.changeSm dev sm change) :=
  { learns with sm := by simp only [Snapshot.changeSm, learns.sm] }

theorem changeWarp (site : Site) (change : Warp → Warp) :
    (before.changeWarp site change).OnlyLearns (after.changeWarp site change) :=
  { learns with warp := by simp only [Snapshot.changeWarp, learns.warp] }

theorem exitKernel {kernel kernel' : Kernel} (launch : kernel'.launch = kernel.launch) :
    (before.exitKernel kernel).OnlyLearns (after.exitKernel kernel') := by
  simp only [Snapshot.exitKernel, Kernel.id, Kernel.dev, Kernel.grid, launch]
  refine { learns with warp := ?_, grid := ?_, launches := ?_ }
  · rw [Snapshot.retireGrid, Snapshot.retireGrid, Snapshot.setGridStatus, Snapshot.setGridStatus, learns.warp]
  · simp only [Snapshot.retireGrid, Snapshot.setGridStatus, learns.grid]
  · simp only [Snapshot.retireGrid, Snapshot.setGridStatus, KernelTable.launches_erase, learns.launches]

theorem workingWarp_eq {kernel kernel' : Kernel} (launch : kernel'.launch = kernel.launch) (dev : Ordinal)
    (block : Dim3) (first active : BitVec 32) :
    after.workingWarp dev kernel' block first active = before.workingWarp dev kernel block first active := by
  simp only [Snapshot.workingWarp, Snapshot.clusterOf, learns.clock, learns.grid, Kernel.grid, launch]

theorem hasDevice_eq (dev : Ordinal) : after.hasDevice dev = before.hasDevice dev := by
  rw [hasDevice, hasDevice, learns.shape]

theorem hasSm_eq (dev sm : Ordinal) : after.hasSm dev sm = before.hasSm dev sm := by
  rw [hasSm, hasSm, learns.hasDevice_eq, learns.shape]

theorem hasWarp_eq (site : Site) : after.hasWarp site = before.hasWarp site := by
  rw [hasWarp, hasWarp, learns.hasSm_eq, learns.shape]

theorem hasLane_eq (site : Site) (ln : Ordinal) : after.hasLane site ln = before.hasLane site ln := by
  rw [hasLane, hasLane, learns.hasWarp_eq, learns.shape]

theorem populate_cases (site : Site) (id : KernelId) (block : Dim3) (first active : BitVec 32) :
    (∃ fault, before.populate site id block first active = .error fault ∧
      after.populate site id block first active = .error fault) ∨
      ∃ worked other, before.populate site id block first active = .ok worked ∧
        after.populate site id block first active = .ok other ∧ worked.OnlyLearns other := by
  rcases learns.find?_cases id with ⟨unknown, alsoUnknown⟩ | ⟨kernel, kernel', known, alsoKnown, launch⟩
  · exact .inl ⟨.unregistered id, by simp only [populate, unknown], by simp only [populate, alsoUnknown]⟩
  · have fits : after.threadsFit kernel'.launch.blockDim first = before.threadsFit kernel.launch.blockDim first := by
      rw [threadsFit, threadsFit, learns.shape, launch]
    simp only [populate, known, alsoKnown, learns.hasWarp_eq, fits, learns.workingWarp_eq launch]
    by_cases inRange : before.hasWarp site = true
    · by_cases fit : before.threadsFit kernel.launch.blockDim first = true
      · simp only [inRange, fit, if_true]
        exact .inr ⟨_, _, rfl, rfl, (learns.changeSm _ _ _).changeWarp site _⟩
      · simp [inRange, fit]
    · simp [inRange]

end

end Snapshot.OnlyLearns

theorem Snapshot.tables_of_populate {snapshot worked : Snapshot} {site : Site} {id : KernelId} {block : Dim3}
    {first active : BitVec 32} (done : snapshot.populate site id block first active = .ok worked) :
    worked.kernels = snapshot.kernels ∧ worked.grid = snapshot.grid := by
  obtain ⟨-, -, -, -, rfl⟩ := populate_eq_ok.mp done
  exact ⟨rfl, rfl⟩

namespace Session

namespace OnlyLearns

variable {before after : Session}

/-- What is only learnt on either side makes no difference. -/
theorem square {before' after' : Session} (learns : before.OnlyLearns after) (left : before.OnlyLearns before')
    (right : after.OnlyLearns after') : before'.OnlyLearns after' :=
  left.symm.trans (learns.trans right)

theorem invalidate (session : Session) : session.OnlyLearns (session.edit .invalidate).session :=
  withKernels (KernelTable.launches_revise ..)

theorem performOnKernel (session : Session) (id : KernelId) (step : KernelStep) :
    session.OnlyLearns (session.perform (.onKernel id step)).session := by
  rw [Session.perform]
  cases session.snapshot.kernels.find? id with
  | none => exact refl session
  | some kernel => exact onKernel session kernel step

theorem withSnapshot (learns : before.OnlyLearns after) {snapshot other : Snapshot}
    (changed : snapshot.OnlyLearns other) : (before.withSnapshot snapshot).OnlyLearns (after.withSnapshot other) :=
  ⟨changed, learns.outage⟩

theorem change (learns : before.OnlyLearns after) {present alike : Bool} {snapshot other : Snapshot}
    (same : alike = present) (changed : snapshot.OnlyLearns other) :
    (before.change present snapshot).session.OnlyLearns (after.change alike other).session := by
  subst same
  cases alike with
  | false => exact learns
  | true => exact learns.withSnapshot changed

theorem edit (learns : before.OnlyLearns after) (edit : Edit) :
    (before.edit edit).session.OnlyLearns (after.edit edit).session := by
  have snapshot := learns.snapshot
  cases edit with
  | addFunction start size name =>
      rw [Session.edit, Session.edit, Snapshot.addFunction, Snapshot.addFunction, snapshot.functions]
      cases before.snapshot.functions.insert start size name with
      | ok functions => exact learns.withSnapshot { snapshot with functions := rfl }
      | error fault => exact learns
  | launch launch => exact learns.withSnapshot (snapshot.launch launch)
  | exitKernel id =>
      rcases snapshot.find?_cases id with ⟨unknown, alsoUnknown⟩ | ⟨kernel, kernel', known, alsoKnown, launch⟩
      · simpa only [Session.edit, unknown, alsoUnknown] using learns
      · simp only [Session.edit, known, alsoKnown, snapshot.hasDevice_eq, Kernel.dev, launch]
        by_cases present : before.snapshot.hasDevice kernel.launch.dev = true
        · simp only [present, if_true]
          exact learns.withSnapshot (snapshot.exitKernel launch)
        · simp only [present]
          exact learns
  | setGridStatus dev grid status => exact learns.withSnapshot (snapshot.setGridStatus dev grid status)
  | forgetGrid dev grid => exact learns.withSnapshot (snapshot.forgetGrid dev grid)
  | setClock clock => exact learns.withSnapshot (snapshot.setClock clock)
  | setBreakpoint dev pc present =>
      exact learns.change (snapshot.hasDevice_eq dev) (snapshot.setBreakpoint dev pc present)
  | setSm dev sm change => exact learns.change (snapshot.hasSm_eq dev sm) (snapshot.changeSm dev sm _)
  | setWarp site change => exact learns.change (snapshot.hasWarp_eq site) (snapshot.changeWarp site _)
  | setLane site ln change => exact learns.change (snapshot.hasLane_eq site ln) (snapshot.changeWarp site _)
  | populate site id block first active =>
      rcases snapshot.populate_cases site id block first active with
        ⟨fault, refused, alsoRefused⟩ | ⟨worked, other, done, alsoDone, alike⟩
      · cases fault <;> simpa only [Session.edit, refuse, refused, alsoRefused] using learns
      · simp only [Session.edit, done, alsoDone]
        exact learns.withSnapshot alike
  | invalidate => exact learns.square (.invalidate before) (.invalidate after)
  | setOutage reason => exact ⟨snapshot, rfl⟩

theorem perform (learns : before.OnlyLearns after) (step : Step) :
    (before.perform step).session.OnlyLearns (after.perform step).session := by
  cases step with
  | edit edit => exact learns.edit edit
  | read reading => exact learns.square (.read before reading) (.read after reading)
  | onKernel id step => exact learns.square (.performOnKernel before id step) (.performOnKernel after id step)

theorem poses_eq (learns : before.OnlyLearns after) (step : Step) : after.poses step = before.poses step := by
  cases step with
  | edit => rfl
  | read reading => cases reading <;> rfl
  | onKernel id step =>
      cases step with
      | smMask =>
          rcases learns.snapshot.find?_cases id with ⟨unknown, alsoUnknown⟩ | ⟨kernel, kernel', known, alsoKnown, launch⟩
          · simp only [poses, unknown, alsoUnknown]
          · simp only [poses, known, alsoKnown, Option.map_some, Focus.smsOf, Kernel.dev, Kernel.id, launch]
      | _ => rfl

end OnlyLearns

end Session

end LaneScope
