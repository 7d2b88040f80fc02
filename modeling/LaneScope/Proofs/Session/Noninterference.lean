import Mathlib
import LaneScope.Proofs.Query.Visibility
import LaneScope.Proofs.Session.Answers
import LaneScope.Proofs.Session.Course

/-!
Reads do not interfere with queries.  Queries depend on what is kept about kernels through the extents that they are
told, and a read leaves these as they were.  Main statement: after any run of reads a query is answered as at once.
-/

namespace LaneScope

namespace Provider

variable {provider other : Provider}

theorem find?_extents (provider : Provider) (dev : Ordinal) (grid : GridId) :
    (provider.snapshot.kernels.findGrid dev grid).map (fun kernel => (kernel.launch, provider.clusterDim kernel)) =
      provider.extents.find? fun (launch, _) => launch.dev == dev && launch.grid == grid := by
  rw [KernelTable.findGrid, extents, List.find?_map]
  rfl

section

variable (onlyLearns : provider.snapshot.OnlyLearns other.snapshot) (extents : other.extents = provider.extents)
include onlyLearns extents

/-- A warp runs kernels of the same launch, or an unknown one in both. -/
theorem kernelAt_of_extents (site : Site) :
    (provider.snapshot.kernelAt site = none ∧ other.snapshot.kernelAt site = none) ∨
      ∃ kernel kernel', provider.snapshot.kernelAt site = some kernel ∧ other.snapshot.kernelAt site = some kernel' ∧
        kernel'.launch = kernel.launch ∧ other.clusterDim kernel' = provider.clusterDim kernel := by
  have same : (other.snapshot.kernels.findGrid site.dev (provider.snapshot.warp site).grid).map
      (fun kernel => (kernel.launch, other.clusterDim kernel)) =
        (provider.snapshot.kernels.findGrid site.dev (provider.snapshot.warp site).grid).map
          fun kernel => (kernel.launch, provider.clusterDim kernel) := by
    rw [find?_extents, find?_extents, extents]
  simpa only [Snapshot.kernelAt, onlyLearns.warp, Prod.mk.injEq] using KernelTable.both_of_map_eq same

theorem identity_of_extents (site : Site) : other.identity site = provider.identity site := by
  rw [identity, identity, Snapshot.warpValid, Snapshot.warpValid, onlyLearns.sm, onlyLearns.warp]
  rcases kernelAt_of_extents onlyLearns extents site with
    ⟨unknown, alsoUnknown⟩ | ⟨kernel, kernel', known, alsoKnown, launch, told⟩
  · rw [unknown, alsoUnknown]
  · simp only [known, alsoKnown, told, Kernel.id, launch]

theorem consults_of_extents (site : Site) : other.snapshot.consults site = provider.snapshot.consults site := by
  rw [Snapshot.consults, Snapshot.consults, Snapshot.warpValid, Snapshot.warpValid, onlyLearns.sm, onlyLearns.warp]
  rcases kernelAt_of_extents onlyLearns extents site with
    ⟨unknown, alsoUnknown⟩ | ⟨kernel, kernel', known, alsoKnown, launch, -⟩
  · rw [unknown, alsoUnknown]
  · simp only [known, alsoKnown, Option.toList_some, List.map_cons, List.map_nil, Kernel.id, launch]

theorem hits_of_extents (query : Query) (site : Site) : query.hits other site = query.hits provider site := by
  have same : other.snapshot.SameWarp provider.snapshot site :=
    ⟨onlyLearns.clock, by rw [onlyLearns.sm], by rw [onlyLearns.warp], fun _ => by rw [onlyLearns.breakpoint]⟩
  simp only [Query.hits, same.enters_eq query, same.hit?_eq query, onlyLearns.shape,
    consults_of_extents onlyLearns extents site, identity_of_extents onlyLearns extents site]

/-- A query depends on the kernels through their launches and the extents that it is told. -/
theorem evaluate_of_extents (query : Query) : other.evaluate query = provider.evaluate query := by
  apply evaluate_congr onlyLearns.shape
  intro site _
  exact hits_of_extents onlyLearns extents query site

end

end Provider

namespace KernelStep

/-- Whether the step on a kernel is a read.  A read may mark what it has learnt about the kernel. -/
def isReading : KernelStep → Bool
  | setLaunched _ | invalidate => false
  | summary | depth | children | clusterDim | gridStatus | present | describe | smMask | shouldReport _
  | readArguments _ | arguments _ => true

end KernelStep

def Step.isReading : Step → Bool
  | .edit _ => false
  | .read _ => true
  | .onKernel _ step => step.isReading

namespace Session

namespace Agrees

variable {session after : Session}

theorem evaluate_eq (agrees : session.Agrees after) (query : Query) :
    after.provider.evaluate query = session.provider.evaluate query := by
  apply Provider.evaluate_of_extents _ agrees.extents
  rw [provider_snapshot, provider_snapshot]
  exact agrees.onlyLearns.snapshot

theorem answer_eq (agrees : session.Agrees after) {step : Step} {query : Query}
    (posed : session.poses step = some query) : (after.perform step).answer = (session.perform step).answer :=
  answer_of_poses agrees.evaluate_eq agrees.onlyLearns.snapshot.shape agrees.onlyLearns.snapshot.launches posed

/-- A read leaves a session that agrees with the one before. -/
theorem perform (session : Session) {step : Step} (reading : step.isReading = true) :
    session.Agrees (session.perform step).session := by
  cases step with
  | edit edit => simp [Step.isReading] at reading
  | read => exact read session _
  | onKernel id step =>
      rw [Session.perform]
      split
      · exact refl session
      · apply onKernel
        rintro rfl
        simp [Step.isReading, KernelStep.isReading] at reading

theorem follow (session : Session) {reads : History} (reading : ∀ step ∈ reads, step.isReading = true) :
    session.Agrees (session.follow reads) := by
  induction reads with
  | nil => exact refl session
  | cons step earlier ih =>
      rw [List.forall_mem_cons] at reading
      exact (ih reading.2).trans (perform _ reading.1)

end Agrees

/-- Whatever has been read in between, every query is answered as at once. -/
theorem follow_reads_unobserved (session : Session) {reads : History}
    (reading : ∀ step ∈ reads, step.isReading = true) :
    (∀ query, (session.follow reads).provider.evaluate query = session.provider.evaluate query) ∧
      ∀ step query, session.poses step = some query →
        ((session.follow reads).perform step).answer = (session.perform step).answer := by
  have agrees := Agrees.follow session reading
  constructor
  · intro query
    exact agrees.evaluate_eq query
  · intro step query posed
    exact agrees.answer_eq posed

end Session

/-- A warp at work, in clusters of two blocks, with nothing kept about its kernel. -/
def Session.dropped : Session :=
  (Snapshot.ofShape ⟨1, 1, 1, 2⟩).session.follow
    [.edit .invalidate, .edit (.populate ⟨0, 0, 0⟩ 7 ⟨3, 0, 0⟩ 0 1),
      .edit (.launch
        { kernel := 7, dev := 0, grid := 3, moduleId := 1, entry := 0x40, gridDim := ⟨4, 1, 1⟩, blockDim := ⟨2, 1, 1⟩,
          clusterDim := ⟨2, 1, 1⟩, type := .application, origin := .cpu, parent := none })]

def History.inspecting : History :=
  [.onKernel 7 .describe, .read .firstValidThread]

theorem Session.dropped_inspecting_unobserved :
    (dropped.follow .inspecting).snapshot.gridQueries = 2 ∧
      (∃ coords, (dropped.perform (.read .firstValidThread)).answer = .ok (.coords (some coords))) ∧
      ((dropped.follow .inspecting).perform (.read .firstValidThread)).answer =
        (dropped.perform (.read .firstValidThread)).answer := by
  refine ⟨by cbv, ⟨_, by cbv⟩, ?_⟩
  exact (follow_reads_unobserved dropped (by decide)).2 _ _ rfl

end LaneScope
