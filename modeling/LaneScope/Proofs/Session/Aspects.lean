import LaneScope.Proofs.Kernel.Table
import LaneScope.Session.Run

/-!
The aspects of a kernel that are looked up in the records and kept.  What is looked up of one kernel stays with it, and
what is kept already is not looked up again.
-/

namespace LaneScope

inductive Aspect where
  | clusterDim
  | gridStatus
deriving DecidableEq

abbrev Aspect.Value : Aspect → Type
  | clusterDim => Dim3
  | gridStatus => GridStatus

def Kernel.kept (kernel : Kernel) : (aspect : Aspect) → Option aspect.Value
  | .clusterDim => kernel.clusterDim
  | .gridStatus => kernel.gridStatus

def GridRecord.get (record : GridRecord) : (aspect : Aspect) → aspect.Value
  | .clusterDim => record.clusterDim
  | .gridStatus => record.status

namespace Kernel

variable {kernel : Kernel} {aspect : Aspect}

def keep (kernel : Kernel) : (aspect : Aspect) → aspect.Value → Kernel
  | .clusterDim, dim => { kernel with clusterDim := some dim }
  | .gridStatus, status => { kernel with gridStatus := some status }

/-- The kernel with what is found of an aspect, if anything is, unless it is kept already. -/
def learn (kernel : Kernel) : (aspect : Aspect) → Option aspect.Value → Kernel
  | .clusterDim, found => { kernel with clusterDim := kernel.clusterDim.or found }
  | .gridStatus, found => { kernel with gridStatus := kernel.gridStatus.or found }

theorem launch_keep (kernel : Kernel) (aspect : Aspect) (value : aspect.Value) :
    (kernel.keep aspect value).launch = kernel.launch := by
  cases aspect <;> rfl

@[simp] theorem learn_none (kernel : Kernel) (aspect : Aspect) : kernel.learn aspect none = kernel := by
  cases aspect <;> simp [learn]

theorem learn_of_kept {value : aspect.Value} (kept : kernel.kept aspect = some value) (found : Option aspect.Value) :
    kernel.learn aspect found = kernel := by
  obtain ⟨launch, name, launched, depth, clusterDim, gridStatus, arguments⟩ := kernel
  cases aspect with
  | clusterDim =>
      obtain rfl : clusterDim = some value := kept
      rfl
  | gridStatus =>
      obtain rfl : gridStatus = some value := kept
      rfl

theorem learn_of_lacking (lacking : kernel.kept aspect = none) (value : aspect.Value) :
    kernel.learn aspect (some value) = kernel.keep aspect value := by
  obtain ⟨launch, name, launched, depth, clusterDim, gridStatus, arguments⟩ := kernel
  cases aspect with
  | clusterDim =>
      obtain rfl : clusterDim = none := lacking
      rfl
  | gridStatus =>
      obtain rfl : gridStatus = none := lacking
      rfl

theorem learn_learn (kernel : Kernel) (aspect : Aspect) (found later : Option aspect.Value) :
    (kernel.learn aspect found).learn aspect later = kernel.learn aspect (found.or later) := by
  cases aspect <;> simp [learn, Option.or_assoc]

theorem launch_learn (kernel : Kernel) (aspect : Aspect) (found : Option aspect.Value) :
    (kernel.learn aspect found).launch = kernel.launch := by
  cases aspect <;> rfl

theorem dev_learn (kernel : Kernel) (aspect : Aspect) (found : Option aspect.Value) :
    (kernel.learn aspect found).dev = kernel.dev := by
  rw [dev, launch_learn, dev]

theorem grid_learn (kernel : Kernel) (aspect : Aspect) (found : Option aspect.Value) :
    (kernel.learn aspect found).grid = kernel.grid := by
  rw [grid, launch_learn, grid]

theorem arguments_learn (kernel : Kernel) (aspect : Aspect) (found : Option aspect.Value) :
    (kernel.learn aspect found).arguments = kernel.arguments := by
  cases aspect <;> rfl

theorem kept_learn (kernel : Kernel) (aspect : Aspect) (found : Option aspect.Value) :
    (kernel.learn aspect found).kept aspect = (kernel.kept aspect).or found := by
  cases aspect <;> rfl

theorem kept_learn_of_ne {other : Aspect} (different : other ≠ aspect) (found : Option aspect.Value) :
    (kernel.learn aspect found).kept other = kernel.kept other := by
  cases aspect <;> cases other <;> first | rfl | exact (different rfl).elim

end Kernel

def Provider.provided (provider : Provider) (launch : Launch) (aspect : Aspect) : Except LookupFault aspect.Value :=
  (provider.lookup launch.dev launch.grid).map fun record => record.get aspect

namespace Snapshot

variable {snapshot : Snapshot} {id : KernelId} {kernel : Kernel}

def learnAspect (snapshot : Snapshot) (aspect : Aspect) (id : KernelId) : Snapshot :=
  match snapshot.kernels.find? id with
  | none => snapshot
  | some kernel =>
    match kernel.kept aspect with
    | some _ => snapshot
    | none =>
      match snapshot.grid (kernel.dev, kernel.grid) with
      | none => snapshot.countLookup
      | some record =>
        { snapshot.countLookup with
          kernels := snapshot.kernels.reviseAt id (fun kernel => kernel.keep aspect (record.get aspect))
            fun kernel => kernel.launch_keep aspect _ }

theorem learnAspect_eq (snapshot : Snapshot) (aspect : Aspect) (id : KernelId) :
    snapshot.learnAspect aspect id = match aspect with
      | .clusterDim => snapshot.learnClusterDim id
      | .gridStatus => snapshot.learnGridStatus id := by
  cases aspect with
  | clusterDim | gridStatus =>
      simp only [learnAspect, learnClusterDim, learnGridStatus, Kernel.kept]
      cases snapshot.kernels.find? id with
      | none => rfl
      | some kernel =>
          dsimp only
          split
          · rename_i kept
            rw [kept]
          · rename_i lacking
            rw [lacking]
            cases snapshot.grid (kernel.dev, kernel.grid) <;> rfl

theorem learnClusterDim_eq : learnClusterDim = fun snapshot => snapshot.learnAspect .clusterDim :=
  funext fun snapshot => funext fun id => (snapshot.learnAspect_eq .clusterDim id).symm

theorem learnGridStatus_eq : learnGridStatus = fun snapshot => snapshot.learnAspect .gridStatus :=
  funext fun snapshot => funext fun id => (snapshot.learnAspect_eq .gridStatus id).symm

theorem grid_learnAspect (snapshot : Snapshot) (aspect : Aspect) (id : KernelId) :
    (snapshot.learnAspect aspect id).grid = snapshot.grid := by
  rw [learnAspect]
  split
  · rfl
  · split
    · rfl
    · split <;> rfl

theorem find?_learnAspect (known : snapshot.kernels.find? id = some kernel) (aspect : Aspect) (asked : KernelId) :
    (snapshot.learnAspect aspect asked).kernels.find? id = some
      (kernel.learn aspect (if asked == id then
        (snapshot.grid (kernel.dev, kernel.grid)).map fun record => record.get aspect else none)) := by
  rw [learnAspect]
  by_cases same : asked = id
  · subst same
    simp only [known, beq_self_eq_true, if_true]
    cases kept : kernel.kept aspect with
    | some value => rw [known, Kernel.learn_of_kept kept]
    | none =>
        cases recorded : snapshot.grid (kernel.dev, kernel.grid) with
        | none =>
            rw [Option.map_none, Kernel.learn_none]
            exact known
        | some record =>
            rw [Option.map_some, Kernel.learn_of_lacking kept]
            simp [KernelTable.find?_reviseAt, known]
  · simp only [beq_false_of_ne same, Bool.false_eq_true, if_false, Kernel.learn_none]
    split
    · exact known
    · split
      · exact known
      · split
        · exact known
        · simp [KernelTable.find?_reviseAt, Ne.symm same, known]

theorem find?_foldl_learnAspect (known : snapshot.kernels.find? id = some kernel) (aspect : Aspect)
    (ids : List KernelId) :
    (ids.foldl (fun snapshot => snapshot.learnAspect aspect) snapshot).kernels.find? id = some
      (kernel.learn aspect (if ids.contains id then
        (snapshot.grid (kernel.dev, kernel.grid)).map fun record => record.get aspect else none)) := by
  induction ids generalizing snapshot kernel with
  | nil => simpa using known
  | cons asked ids ih =>
      rw [List.foldl_cons, ih (find?_learnAspect known aspect asked), grid_learnAspect, Kernel.learn_learn,
        Kernel.dev_learn, Kernel.grid_learn, List.contains_cons]
      by_cases same : asked = id
      · by_cases later : id ∈ ids <;> simp [same, later]
      · simp [same, Ne.symm same]

end Snapshot

namespace Session

variable {session : Session} {id : KernelId} {kernel : Kernel}

theorem toOption_provided (session : Session) (launch : Launch) (aspect : Aspect) :
    (session.provider.provided launch aspect).toOption = match session.outage with
      | none => (session.snapshot.grid (launch.dev, launch.grid)).map fun record => record.get aspect
      | some _ => none := by
  rw [Session.provider]
  cases session.outage with
  | some reason => rfl
  | none =>
      simp only [Provider.provided, Snapshot.provider, Snapshot.lookup]
      cases session.snapshot.grid (launch.dev, launch.grid) <;> rfl

theorem find?_learn (known : session.snapshot.kernels.find? id = some kernel) (aspect : Aspect) (ids : List KernelId) :
    (session.learn (ids.foldl fun snapshot => snapshot.learnAspect aspect)).snapshot.kernels.find? id = some
      (kernel.learn aspect (if ids.contains id then (session.provider.provided kernel.launch aspect).toOption else none)) := by
  rw [toOption_provided, learn]
  cases session.outage with
  | none => exact Snapshot.find?_foldl_learnAspect known aspect ids
  | some reason => simpa only [ite_self, Kernel.learn_none] using known

theorem session_ask (session : Session) (query : Query) : (session.ask query).2 =
    session.learn ((session.provider.evaluate query).kernels.foldl fun snapshot => snapshot.learnAspect .clusterDim) := by
  rw [ask, Snapshot.learnClusterDim_eq]

theorem session_clusterDim (session : Session) (kernel : Kernel) : (session.clusterDim kernel).2 =
    session.learn ([kernel.id].foldl fun snapshot => snapshot.learnAspect .clusterDim) := by
  rw [clusterDim, Snapshot.learnClusterDim_eq]
  rfl

theorem session_gridStatus (session : Session) (kernel : Kernel) : (session.gridStatus kernel).2 =
    session.learn ([kernel.id].foldl fun snapshot => snapshot.learnAspect .gridStatus) := by
  rw [gridStatus, Snapshot.learnGridStatus_eq]
  rfl

theorem session_put (session : Session) (query : Query) (answer : CoordSet → Answer) :
    (session.put query answer).session = (session.ask query).2 := by
  rw [put]
  split <;> simp_all [refuse]

theorem session_looked {α : Type} (answer : α → Answer) (reply : Except LookupFault α × Session) :
    (looked answer reply).session = reply.2 := by
  obtain ⟨outcome, after⟩ := reply
  cases outcome <;> rfl

end Session

end LaneScope
