import LaneScope.Proofs.Device.Populate
import LaneScope.Proofs.Session.Learning

/-!
Courses of sessions.  A course is a run of permitted steps.  Its history tells which kernel a warp was last put to work
for, and whether the record of a grid was forgotten.  Main statement: in every session that a course from an idle
snapshot reaches, each valid warp works for the registered kernel of its history, and each registered kernel without a
record has had its record forgotten.
-/

namespace LaneScope

/-- The steps taken so far, the latest first. -/
abbrev History := List Step

namespace Step

def employs (site : Site) (former : Option KernelId) : Step → Option KernelId
  | .edit (.populate target kernel _ _ _) => if target = site then some kernel else former
  | .edit (.exitKernel kernel) => if former = some kernel then none else former
  | _ => former

def forgets (dev : Ordinal) (grid : GridId) (before : Bool) : Step → Bool
  | .edit (.forgetGrid target forgotten) => before || (target == dev && forgotten == grid)
  | .edit (.launch launch) => before && !(launch.dev == dev && launch.grid == grid)
  | _ => before

structure IsQuiet (step : Step) : Prop where
  employs : ∀ site former, step.employs site former = former
  forgets : ∀ dev grid before, step.forgets dev grid before = before

end Step

namespace History

/-- The kernel that the warp was last put to work for, unless the kernel has exited since. -/
def employer (site : Site) : History → Option KernelId
  | [] => none
  | step :: earlier => step.employs site (employer site earlier)

def isForgotten (dev : Ordinal) (grid : GridId) : History → Bool
  | [] => false
  | step :: earlier => step.forgets dev grid (isForgotten dev grid earlier)

end History

namespace Session

/-- Whether a step is one that a course may take.  A launch takes numbers that are free, a warp is put to work for a
kernel of its own device and by no other edit, and units are in range. -/
def Permits (session : Session) : Step → Prop
  | .edit (.addFunction start size name) => ∃ snapshot, session.snapshot.addFunction start size name = .ok snapshot
  | .edit (.launch launch) => session.snapshot.hasDevice launch.dev = true ∧
      session.snapshot.kernels.find? launch.kernel = none ∧
      session.snapshot.kernels.findGrid launch.dev launch.grid = none
  | .edit (.populate site id _ first _) => session.snapshot.hasWarp site = true ∧
      ∃ kernel, session.snapshot.kernels.find? id = some kernel ∧ kernel.dev = site.dev ∧
        session.snapshot.threadsFit kernel.launch.blockDim first = true
  | .edit (.setBreakpoint dev _ _) => session.snapshot.hasDevice dev = true
  | .edit (.setSm dev sm _) => session.snapshot.hasSm dev sm = true
  | .edit (.setWarp site change) =>
      session.snapshot.hasWarp site = true ∧ change.grid = none ∧ change.valid ≠ some true
  | .edit (.setLane site ln _) => session.snapshot.hasLane site ln = true
  | .edit (.setOutage _) => False
  | .edit (.exitKernel _) | .edit (.setGridStatus _ _ _) | .edit (.forgetGrid _ _) | .edit (.setClock _) => True
  | .edit .invalidate | .read _ | .onKernel _ _ => True

def follow (start : Session) : History → Session
  | [] => start
  | step :: earlier => ((follow start earlier).perform step).session

inductive Course (start : Session) : History → Prop
  | start : Course start []
  | step {history : History} (course : Course start history) (step : Step)
      (permitted : (start.follow history).Permits step) : Course start (step :: history)

end Session

theorem WarpChange.keeps_apply {change : WarpChange} {warp : Warp} (sameGrid : change.grid = none)
    (notValid : change.valid ≠ some true) (valid : (change.apply warp).valid = true) :
    warp.valid = true ∧ (change.apply warp).grid = warp.grid := by
  refine ⟨?_, by simp [apply, sameGrid]⟩
  cases told : change.valid with
  | none => simpa [apply, told] using valid
  | some flag =>
      have raised : flag = true := by simpa [apply, told] using valid
      exact (notValid (by rw [told, raised])).elim

namespace Snapshot

structure Keeps (before after : Snapshot) : Prop where
  shape : after.shape = before.shape
  launches : after.kernels.launches = before.kernels.launches
  warp : ∀ site, (after.warp site).valid = true →
    (before.warp site).valid = true ∧ (after.warp site).grid = (before.warp site).grid
  grid : ∀ key, after.grid key = none → before.grid key = none

variable {snapshot after : Snapshot}

theorem OnlyLearns.keeps (learns : snapshot.OnlyLearns after) : snapshot.Keeps after := by
  refine ⟨learns.shape, learns.launches, ?_, ?_⟩
  · intro site valid
    rw [learns.warp] at valid ⊢
    exact ⟨valid, rfl⟩
  · intro key absent
    rwa [← learns.grid]

theorem Keeps.of_units (kernels : after.kernels = snapshot.kernels) (shape : after.shape = snapshot.shape)
    (warp : after.warp = snapshot.warp) (grid : after.grid = snapshot.grid) : snapshot.Keeps after :=
  ⟨shape, by rw [kernels], by simp [warp], by simp [grid]⟩

theorem addFunction_keeps {start size : Address} {name : String}
    (added : snapshot.addFunction start size name = .ok after) : snapshot.Keeps after := by
  rw [addFunction] at added
  cases inserted : snapshot.functions.insert start size name with
  | error fault => simp [inserted, Except.map] at added
  | ok functions =>
      simp only [inserted, Except.map, Except.ok.injEq] at added
      subst added
      exact .of_units rfl rfl rfl rfl

theorem setGridStatus_keeps (snapshot : Snapshot) (dev : Ordinal) (grid : GridId) (status : GridStatus) :
    snapshot.Keeps (snapshot.setGridStatus dev grid status) := by
  refine ⟨rfl, rfl, fun _ valid => ⟨valid, rfl⟩, ?_⟩
  intro key absent
  simp only [setGridStatus, assign] at absent
  split at absent
  · rename_i same
    rw [same]
    simpa using absent
  · exact absent

theorem changeWarp_keeps {site : Site} {change : Warp → Warp}
    (keeps : (change (snapshot.warp site)).valid = true →
      (snapshot.warp site).valid = true ∧ (change (snapshot.warp site)).grid = (snapshot.warp site).grid) :
    snapshot.Keeps (snapshot.changeWarp site change) := by
  refine ⟨rfl, rfl, ?_, fun _ absent => absent⟩
  intro other valid
  simp only [changeWarp, assign] at valid ⊢
  split at valid
  · rename_i same
    simp only [same, if_true]
    exact keeps valid
  · rename_i different
    simp only [different, if_false, and_true]
    exact valid

theorem grid_exitKernel_eq_none {kernel : Kernel} {key : Ordinal × GridId}
    (absent : (snapshot.exitKernel kernel).grid key = none) : snapshot.grid key = none :=
  (setGridStatus_keeps { snapshot with kernels := _ } _ _ _).grid key absent

/-- A warp that is valid after an exit was not at work for the kernel that exited. -/
theorem valid_of_exitKernel {kernel : Kernel} {site : Site}
    (valid : ((snapshot.exitKernel kernel).warp site).valid = true) :
    (snapshot.exitKernel kernel).warp site = snapshot.warp site ∧ (snapshot.warp site).valid = true ∧
      ¬(site.dev = kernel.dev ∧ (snapshot.warp site).grid = kernel.grid) := by
  have warp : (snapshot.exitKernel kernel).warp site =
      if site.dev = kernel.dev ∧ (snapshot.warp site).valid = true ∧ (snapshot.warp site).grid = kernel.grid then
        (snapshot.warp site).retire
      else snapshot.warp site := rfl
  rw [warp] at valid ⊢
  by_cases retired : site.dev = kernel.dev ∧ (snapshot.warp site).valid = true ∧ (snapshot.warp site).grid = kernel.grid
  · simp [retired, Warp.retire] at valid
  · rw [if_neg retired] at valid ⊢
    exact ⟨rfl, valid, fun ⟨dev, grid⟩ => retired ⟨dev, valid, grid⟩⟩

end Snapshot

namespace Session

structure Sound (history : History) (session : Session) : Prop where
  linked : session.outage = none
  device : ∀ launch ∈ session.snapshot.kernels.launches, session.snapshot.hasDevice launch.dev = true
  distinct : session.snapshot.kernels.GridsDistinct
  working : ∀ site, (session.snapshot.warp site).valid = true → session.snapshot.hasWarp site = true ∧
    ∃ launch ∈ session.snapshot.kernels.launches, launch.dev = site.dev ∧
      launch.grid = (session.snapshot.warp site).grid ∧ history.employer site = some launch.kernel
  recorded : ∀ launch ∈ session.snapshot.kernels.launches, session.snapshot.grid (launch.dev, launch.grid) = none →
    history.isForgotten launch.dev launch.grid = true

namespace Sound

variable {history : History} {session after : Session} {step : Step}

theorem ofShape (shape : Shape) : Sound [] (Snapshot.ofShape shape).session := by
  constructor <;> simp [Snapshot.session, Snapshot.ofShape, KernelTable.GridsDistinct, KernelTable.launches,
    KernelTable.empty]

theorem of_keeps (sound : Sound history session) (keeps : session.snapshot.Keeps after.snapshot)
    (linked : after.outage = session.outage) (quiet : step.IsQuiet) :
    Sound (step :: history) after := by
  refine ⟨linked.trans sound.linked, ?_, ?_, ?_, ?_⟩
  · intro launch member
    rw [keeps.launches] at member
    have inRange := sound.device launch member
    rwa [Snapshot.hasDevice, keeps.shape]
  · intro launch member other otherMember
    rw [keeps.launches] at member otherMember
    exact sound.distinct launch member other otherMember
  · intro site valid
    obtain ⟨before, grid⟩ := keeps.warp site valid
    obtain ⟨inRange, launch, member, dev, sameGrid, employer⟩ := sound.working site before
    refine ⟨?_, launch, ?_, dev, sameGrid.trans grid.symm, ?_⟩
    · rwa [Snapshot.hasWarp, Snapshot.hasSm, Snapshot.hasDevice, keeps.shape]
    · rwa [keeps.launches]
    · rw [History.employer, quiet.employs, employer]
  · intro launch member absent
    rw [keeps.launches] at member
    rw [History.isForgotten, quiet.forgets]
    exact sound.recorded launch member (keeps.grid _ absent)

theorem of_onlyLearns (sound : Sound history session) (learns : session.OnlyLearns after) (quiet : step.IsQuiet) :
    Sound (step :: history) after :=
  sound.of_keeps learns.snapshot.keeps learns.outage quiet

/-- A change that is refused where the unit is out of range. -/
theorem change (sound : Sound history session) {present : Bool} {snapshot : Snapshot}
    (keeps : session.snapshot.Keeps snapshot) (quiet : step.IsQuiet) :
    Sound (step :: history) (session.change present snapshot).session := by
  cases present with
  | false => exact sound.of_onlyLearns (.refl session) quiet
  | true => exact sound.of_keeps keeps rfl quiet

theorem forgetGrid (sound : Sound history session) (dev : Ordinal) (grid : GridId) :
    Sound (.edit (.forgetGrid dev grid) :: history) (session.edit (.forgetGrid dev grid)).session := by
  refine ⟨sound.linked, sound.device, sound.distinct, sound.working, ?_⟩
  intro launch member absent
  simp only [edit, withSnapshot, Snapshot.forgetGrid, assign, Prod.mk.injEq] at absent
  simp only [History.isForgotten, Step.forgets, Bool.or_eq_true, Bool.and_eq_true, beq_iff_eq]
  split at absent
  · rename_i same
    exact .inr ⟨same.1.symm, same.2.symm⟩
  · exact .inl (sound.recorded launch member absent)

theorem launch (sound : Sound history session) {launch : Launch} (permitted : session.Permits (.edit (.launch launch))) :
    Sound (.edit (.launch launch) :: history) (session.edit (.launch launch)).session := by
  obtain ⟨inRange, freeId, freeGrid⟩ := permitted
  rw [KernelTable.find?_eq_none] at freeId
  rw [KernelTable.findGrid_eq_none] at freeGrid
  have mem_iff (other : Launch) : other ∈ (session.snapshot.launch launch).kernels.launches ↔
      other = launch ∨ (other ∈ session.snapshot.kernels.launches ∧ other.kernel ≠ launch.kernel) :=
    KernelTable.mem_launches_insert
  refine ⟨sound.linked, ?_, ?_, ?_, ?_⟩
  · intro other member
    rcases (mem_iff other).mp member with rfl | ⟨former, -⟩
    · exact inRange
    · exact sound.device other former
  · intro one member other otherMember dev grid
    rcases (mem_iff one).mp member with rfl | ⟨former, -⟩ <;>
      rcases (mem_iff other).mp otherMember with rfl | ⟨otherFormer, -⟩
    · rfl
    · exact (freeGrid other otherFormer dev.symm grid.symm).elim
    · exact (freeGrid one former dev grid).elim
    · exact sound.distinct one former other otherFormer dev grid
  · intro site valid
    obtain ⟨siteInRange, other, member, dev, grid, employer⟩ := sound.working site valid
    exact ⟨siteInRange, other, (mem_iff other).mpr (.inr ⟨member, freeId other member⟩), dev, grid, employer⟩
  · intro other member absent
    simp only [edit, withSnapshot, Snapshot.launch, assign, Prod.mk.injEq] at absent
    split at absent
    · simp at absent
    · rename_i different
      rcases (mem_iff other).mp member with rfl | ⟨former, -⟩
      · exact (different ⟨rfl, rfl⟩).elim
      · have forgotten := sound.recorded other former absent
        simp only [History.isForgotten, Step.forgets, forgotten, Bool.true_and, Bool.not_eq_true',
          Bool.and_eq_false_imp, beq_iff_eq, beq_eq_false_iff_ne]
        exact fun dev grid => different ⟨dev.symm, grid.symm⟩

theorem exitKernel (sound : Sound history session) (id : KernelId) :
    Sound (.edit (.exitKernel id) :: history) (session.edit (.exitKernel id)).session := by
  have employer {site : Site} {launch : Launch} (employed : history.employer site = some launch.kernel)
      (stays : launch.kernel ≠ id) :
      History.employer site (.edit (.exitKernel id) :: history) = some launch.kernel := by
    simp [History.employer, Step.employs, employed, stays]
  cases found : session.snapshot.kernels.find? id with
  | none =>
      have unregistered := KernelTable.find?_eq_none.mp found
      simp only [edit, found]
      refine ⟨sound.linked, sound.device, sound.distinct, ?_, sound.recorded⟩
      intro site valid
      obtain ⟨inRange, launch, member, dev, grid, employed⟩ := sound.working site valid
      exact ⟨inRange, launch, member, dev, grid, employer employed (unregistered launch member)⟩
  | some kernel =>
      obtain ⟨kernelMember, rfl⟩ := KernelTable.find?_eq_some.mp found
      have inRange := sound.device _ (KernelTable.launch_mem_launches kernelMember)
      have present : session.snapshot.hasDevice kernel.dev = true := inRange
      have mem_iff (launch : Launch) : launch ∈ (session.snapshot.exitKernel kernel).kernels.launches ↔
          launch ∈ session.snapshot.kernels.launches ∧ launch.kernel ≠ kernel.id :=
        KernelTable.mem_launches_erase
      simp only [edit, found, present, if_true]
      refine ⟨sound.linked, ?_, ?_, ?_, ?_⟩
      · intro launch member
        exact sound.device launch ((mem_iff launch).mp member).1
      · intro launch member other otherMember
        exact sound.distinct launch ((mem_iff launch).mp member).1 other ((mem_iff other).mp otherMember).1
      · intro site valid
        obtain ⟨same, before, elsewhere⟩ := Snapshot.valid_of_exitKernel valid
        obtain ⟨siteInRange, launch, member, dev, grid, employed⟩ := sound.working site before
        -- The warp was not retired, so it is on another grid and works for a kernel that stays.
        have stays : launch.kernel ≠ kernel.id := by
          intro sameId
          obtain rfl := KernelTable.eq_launch_of_id_eq member kernelMember sameId
          exact elsewhere ⟨dev.symm, grid.symm⟩
        exact ⟨siteInRange, launch, (mem_iff launch).mpr ⟨member, stays⟩, dev, grid.trans (by rw [withSnapshot, same]),
          employer employed stays⟩
      · intro launch member absent
        exact sound.recorded launch ((mem_iff launch).mp member).1 (Snapshot.grid_exitKernel_eq_none absent)

theorem populate (sound : Sound history session) {site : Site} {id : KernelId} {block : Dim3}
    {first active : BitVec 32} (permitted : session.Permits (.edit (.populate site id block first active))) :
    Sound (.edit (.populate site id block first active) :: history)
      (session.edit (.populate site id block first active)).session := by
  obtain ⟨inRange, kernel, found, dev, fit⟩ := permitted
  obtain ⟨kernelMember, rfl⟩ := KernelTable.find?_eq_some.mp found
  simp only [edit, Snapshot.populate_eq_ok.mpr ⟨kernel, found, inRange, fit, rfl⟩]
  refine ⟨sound.linked, sound.device, sound.distinct, ?_, sound.recorded⟩
  intro other valid
  simp only [withSnapshot, Snapshot.changeWarp, assign] at valid ⊢
  split at valid
  · rename_i same
    subst same
    refine ⟨inRange, kernel.launch, KernelTable.launch_mem_launches kernelMember, dev, ?_, ?_⟩
    · simp [Snapshot.workingWarp, Kernel.grid]
    · simp [History.employer, Step.employs, Kernel.id]
  · rename_i different
    obtain ⟨otherInRange, launch, member, otherDev, grid, employed⟩ := sound.working other valid
    refine ⟨otherInRange, launch, member, otherDev, ?_, ?_⟩
    · rw [if_neg different, grid]
      rfl
    · have apart : ¬site = other := fun same => different same.symm
      simp [History.employer, Step.employs, apart, employed]

theorem edit (sound : Sound history session) {edit : Edit} (permitted : session.Permits (.edit edit)) :
    Sound (.edit edit :: history) (session.edit edit).session := by
  cases edit with
  | launch => exact sound.launch permitted
  | exitKernel id => exact sound.exitKernel id
  | forgetGrid dev grid => exact sound.forgetGrid dev grid
  | populate => exact sound.populate permitted
  | setOutage => exact permitted.elim
  | addFunction start size name =>
      obtain ⟨snapshot, added⟩ := permitted
      simp only [Session.edit, added]
      exact sound.of_keeps (Snapshot.addFunction_keeps added) rfl ⟨fun _ _ => rfl, fun _ _ _ => rfl⟩
  | setGridStatus dev grid status =>
      exact sound.of_keeps (Snapshot.setGridStatus_keeps _ dev grid status) rfl ⟨fun _ _ => rfl, fun _ _ _ => rfl⟩
  | setClock clock =>
      exact sound.of_keeps (.of_units rfl rfl rfl rfl) rfl ⟨fun _ _ => rfl, fun _ _ _ => rfl⟩
  | setBreakpoint | setSm =>
      exact sound.change (.of_units rfl rfl rfl rfl) ⟨fun _ _ => rfl, fun _ _ _ => rfl⟩
  | setWarp site change =>
      obtain ⟨-, sameGrid, notValid⟩ := permitted
      refine sound.change (Snapshot.changeWarp_keeps fun valid => ?_) ⟨fun _ _ => rfl, fun _ _ _ => rfl⟩
      exact WarpChange.keeps_apply sameGrid notValid valid
  | setLane site ln change =>
      exact sound.change (Snapshot.changeWarp_keeps fun valid => ⟨valid, rfl⟩) ⟨fun _ _ => rfl, fun _ _ _ => rfl⟩
  | invalidate =>
      exact sound.of_onlyLearns (.withKernels (KernelTable.launches_revise ..)) ⟨fun _ _ => rfl, fun _ _ _ => rfl⟩

end Sound

theorem Course.sound {shape : Shape} {history : History} (course : (Snapshot.ofShape shape).session.Course history) :
    Sound history ((Snapshot.ofShape shape).session.follow history) := by
  induction course with
  | start => exact .ofShape shape
  | step course step permitted ih =>
      cases step with
      | edit edit => exact ih.edit permitted
      | read reading => exact ih.of_onlyLearns (.read _ reading) ⟨fun _ _ => rfl, fun _ _ _ => rfl⟩
      | onKernel id step =>
          refine ih.of_onlyLearns ?_ ⟨fun _ _ => rfl, fun _ _ _ => rfl⟩
          simp only [follow, perform]
          split
          · exact .refl _
          · exact .onKernel _ _ step

end Session

end LaneScope
