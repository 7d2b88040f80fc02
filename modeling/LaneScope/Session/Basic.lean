import LaneScope.Query.Focus
import LaneScope.Kernel.Depth
import LaneScope.Kernel.Arguments

/-!
Sessions.  A session is a snapshot together with the state of the link to the grid records.  Grid attributes that
were looked up are kept with the kernels until an invalidation; a look-up that fails leaves nothing behind but the
count of look-ups.
-/

namespace LaneScope

structure Session where
  snapshot : Snapshot
  /-- While it is set, every look-up of a grid fails for this reason, and is not counted. -/
  outage : Option String := none

def Snapshot.session (snapshot : Snapshot) : Session := { snapshot }

namespace Snapshot

def countLookup (snapshot : Snapshot) : Snapshot :=
  { snapshot with gridQueries := snapshot.gridQueries + 1 }

def learnClusterDim (snapshot : Snapshot) (id : KernelId) : Snapshot :=
  match snapshot.kernels.find? id with
  | none => snapshot
  | some kernel =>
    match kernel.clusterDim with
    | some _ => snapshot
    | none =>
      match snapshot.grid (kernel.dev, kernel.grid) with
      | none => snapshot.countLookup
      | some record =>
        { snapshot.countLookup with kernels := snapshot.kernels.setClusterDim id record.clusterDim }

def learnGridStatus (snapshot : Snapshot) (id : KernelId) : Snapshot :=
  match snapshot.kernels.find? id with
  | none => snapshot
  | some kernel =>
    match kernel.gridStatus with
    | some _ => snapshot
    | none =>
      match snapshot.grid (kernel.dev, kernel.grid) with
      | none => snapshot.countLookup
      | some record =>
        { snapshot.countLookup with kernels := snapshot.kernels.setGridStatus id record.status }

end Snapshot

def Provider.gridStatus (provider : Provider) (kernel : Kernel) : Except LookupFault GridStatus :=
  match kernel.gridStatus with
  | some status => .ok status
  | none => (provider.lookup kernel.dev kernel.grid).map GridRecord.status

namespace CoordSet

def kernelIds (set : CoordSet) : List KernelId :=
  set.coords.toList.filterMap fun coords => coords.logical.kernel.word?

def smMask (set : CoordSet) (sms : Ordinal) : List Bool :=
  (ordinals sms).map fun sm => set.coords.any fun coords => coords.physical.sm == .value sm

end CoordSet

namespace Session

def provider (session : Session) : Provider :=
  match session.outage with
  | none => session.snapshot.provider
  | some reason => ⟨session.snapshot, fun _ _ => .error (.unreachable reason)⟩

/-- Makes a change that only a look-up that reaches the records makes. -/
def learn (session : Session) (change : Snapshot → Snapshot) : Session :=
  match session.outage with
  | none => { session with snapshot := change session.snapshot }
  | some _ => session

def ask (session : Session) (query : Query) : Except QueryFault CoordSet × Session :=
  let answer := session.provider.evaluate query
  (answer.outcome, session.learn fun snapshot => answer.kernels.foldl Snapshot.learnClusterDim snapshot)

def lookup (session : Session) (dev : Ordinal) (grid : GridId) : Except LookupFault GridRecord × Session :=
  (session.provider.lookup dev grid, session.learn Snapshot.countLookup)

def clusterDim (session : Session) (kernel : Kernel) : Except LookupFault Dim3 × Session :=
  (session.provider.clusterDim kernel, session.learn fun snapshot => snapshot.learnClusterDim kernel.id)

def gridStatus (session : Session) (kernel : Kernel) : Except LookupFault GridStatus × Session :=
  (session.provider.gridStatus kernel, session.learn fun snapshot => snapshot.learnGridStatus kernel.id)

def present (session : Session) (kernel : Kernel) : Except LookupFault Bool × Session :=
  let (status, session) := session.gridStatus kernel
  (status.map GridStatus.isPresent, session)

def describe (session : Session) (kernel : Kernel) : Except LookupFault String × Session :=
  let (present, session) := session.present kernel
  (present.map kernel.describe, session)

def withKernels (session : Session) (kernels : KernelTable) : Session :=
  { session with snapshot := { session.snapshot with kernels } }

def residentKernels (session : Session) : Except QueryFault CoordSet × Session :=
  match session.ask Focus.residentKernels with
  | (.error fault, session) => (.error fault, session)
  | (.ok set, session) =>
    let seen := set.kernelIds.foldl (fun table id => table.setLaunched id true) session.snapshot.kernels
    (.ok set, session.withKernels seen)

end Session

end LaneScope
