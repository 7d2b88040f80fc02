import Mathlib
import LaneScope.Proofs.Session.Congruence
import LaneScope.Proofs.Session.Noninterference

/-!
Invalidations do not show in queries.  As long as no record is forgotten and no launch takes numbers that are in use,
each registered kernel has a record with the cluster extent of its launch, so what is kept about it may be dropped at
any time.  Main statement: such runs from an idle snapshot give the same replies to queries if they differ only in
invalidations.
-/

namespace LaneScope

namespace Step

def invalidates : Step → Bool
  | .edit .invalidate | .onKernel _ .invalidate => true
  | _ => false

end Step

namespace History

def withoutInvalidations (history : History) : History :=
  history.filter fun step => !step.invalidates

theorem withoutInvalidations_of_invalidates {step : Step} (invalidates : step.invalidates = true) (earlier : History) :
    withoutInvalidations (step :: earlier) = earlier.withoutInvalidations :=
  List.filter_cons_of_neg (by simp [invalidates])

theorem withoutInvalidations_of_not_invalidates {step : Step} (keeps : step.invalidates = false) (earlier : History) :
    withoutInvalidations (step :: earlier) = step :: earlier.withoutInvalidations :=
  List.filter_cons_of_pos (by simp [keeps])

end History

namespace Session

/-- Whether a step forgets no record, and launches only under numbers that are free. -/
def Spares (session : Session) : Step → Prop
  | .edit (.launch launch) => session.snapshot.kernels.find? launch.kernel = none ∧
      session.snapshot.kernels.findGrid launch.dev launch.grid = none
  | .edit (.forgetGrid _ _) | .edit (.setOutage _) => False
  | _ => True

inductive Orderly (start : Session) : History → Prop
  | start : Orderly start []
  | step {history : History} (orderly : Orderly start history) (step : Step)
      (spared : (start.follow history).Spares step) : Orderly start (step :: history)

def replies (start : Session) : History → List (Except Fault Answer)
  | [] => []
  | step :: earlier =>
    if ((start.follow earlier).poses step).isSome then
      ((start.follow earlier).perform step).answer :: replies start earlier
    else replies start earlier

structure Consistent (session : Session) : Prop where
  linked : session.outage = none
  recorded : ∀ launch ∈ session.snapshot.kernels.launches,
    (session.snapshot.grid (launch.dev, launch.grid)).map GridRecord.clusterDim = some launch.clusterDim
  kept : ∀ kernel ∈ session.snapshot.kernels.kernels,
    kernel.clusterDim = none ∨ kernel.clusterDim = some kernel.launch.clusterDim

end Session

namespace Session

namespace OnlyLearns

variable {before after : Session}

theorem perform_of_invalidates (session : Session) {step : Step} (invalidates : step.invalidates = true) :
    session.OnlyLearns (session.perform step).session := by
  cases step with
  | edit edit =>
      cases edit with
      | invalidate => exact .invalidate session
      | _ => simp [Step.invalidates] at invalidates
  | read reading => exact .read session reading
  | onKernel id step => exact .performOnKernel session id step

theorem follow_withoutInvalidations (start : Session) (history : History) :
    (start.follow history.withoutInvalidations).OnlyLearns (start.follow history) := by
  induction history with
  | nil => exact .refl start
  | cons step earlier ih =>
      cases invalidates : step.invalidates with
      | true =>
          rw [History.withoutInvalidations_of_invalidates invalidates]
          exact ih.trans (perform_of_invalidates _ invalidates)
      | false =>
          rw [History.withoutInvalidations_of_not_invalidates invalidates]
          exact ih.perform step

theorem spares (learns : before.OnlyLearns after) {step : Step} (spared : before.Spares step) : after.Spares step := by
  cases step with
  | read | onKernel => trivial
  | edit edit =>
      cases edit with
      | launch launch =>
          obtain ⟨freeId, freeGrid⟩ := spared
          rw [KernelTable.find?_eq_none] at freeId
          rw [KernelTable.findGrid_eq_none] at freeGrid
          refine ⟨KernelTable.find?_eq_none.mpr ?_, KernelTable.findGrid_eq_none.mpr ?_⟩
          · rwa [learns.snapshot.launches]
          · rwa [learns.snapshot.launches]
      | forgetGrid | setOutage => exact spared.elim
      | _ => trivial

end OnlyLearns

theorem poses_of_invalidates (session : Session) {step : Step} (invalidates : step.invalidates = true) :
    session.poses step = none := by
  cases step with
  | edit => rfl
  | read => simp [Step.invalidates] at invalidates
  | onKernel id step =>
      cases step with
      | invalidate => rfl
      | _ => simp [Step.invalidates] at invalidates

theorem spares_of_invalidates (session : Session) {step : Step} (invalidates : step.invalidates = true) :
    session.Spares step := by
  cases step with
  | read | onKernel => trivial
  | edit edit =>
      cases edit with
      | launch | forgetGrid | setOutage => simp [Step.invalidates] at invalidates
      | _ => trivial

theorem orderly_withoutInvalidations {start : Session} {history : History} :
    start.Orderly history.withoutInvalidations ↔ start.Orderly history := by
  induction history with
  | nil => rfl
  | cons step earlier ih =>
      cases invalidates : step.invalidates with
      | true =>
          rw [History.withoutInvalidations_of_invalidates invalidates, ih]
          constructor
          · intro orderly
            exact .step orderly step (spares_of_invalidates _ invalidates)
          · rintro ⟨⟩
            assumption
      | false =>
          have learns := OnlyLearns.follow_withoutInvalidations start earlier
          rw [History.withoutInvalidations_of_not_invalidates invalidates]
          constructor
          · intro orderly
            cases orderly with
            | step orderly _ spared => exact .step (ih.mp orderly) step (learns.spares spared)
          · intro orderly
            cases orderly with
            | step orderly _ spared => exact .step (ih.mpr orderly) step (learns.symm.spares spared)

namespace Consistent

variable {session after : Session}

theorem ofShape (shape : Shape) : (Snapshot.ofShape shape).session.Consistent := by
  constructor <;> simp [Snapshot.session, Snapshot.ofShape, KernelTable.launches, KernelTable.empty]

theorem extents_eq (consistent : session.Consistent) : session.provider.extents =
    session.snapshot.kernels.launches.map fun launch => (launch, .ok launch.clusterDim) := by
  have provider : session.provider = session.snapshot.provider := by
    rw [Session.provider, consistent.linked]
  rw [provider, Provider.extents, KernelTable.launches, List.map_map]
  apply List.map_congr_left
  intro kernel member
  have told : session.snapshot.provider.clusterDim kernel = .ok kernel.launch.clusterDim := by
    rcases consistent.kept kernel member with dropped | kept
    · have recorded := consistent.recorded _ (KernelTable.launch_mem_launches member)
      obtain ⟨record, found, same⟩ := Option.map_eq_some_iff.mp recorded
      simp [Provider.clusterDim, dropped, Snapshot.provider, Snapshot.lookup, Kernel.dev, Kernel.grid, found, same,
        Except.map]
    · simp only [Provider.clusterDim, kept]
  rw [told]
  rfl

/-- What is kept makes no difference between consistent sessions. -/
theorem agrees (consistent : session.Consistent) (alike : after.Consistent) (learns : session.OnlyLearns after) :
    session.Agrees after := by
  refine ⟨learns, ?_⟩
  rw [consistent.extents_eq, alike.extents_eq, learns.snapshot.launches]

theorem of_agrees (consistent : session.Consistent) (agrees : session.Agrees after) : after.Consistent := by
  obtain ⟨⟨learns, outage⟩, extents⟩ := agrees
  refine ⟨outage.trans consistent.linked, ?_, ?_⟩
  · intro launch member
    rw [learns.launches] at member
    rw [learns.grid]
    exact consistent.recorded launch member
  · intro kernel member
    have told : (kernel.launch, after.provider.clusterDim kernel) ∈ after.provider.extents := by
      rw [Provider.extents, provider_snapshot]
      exact List.mem_map_of_mem member
    rw [extents, consistent.extents_eq, List.mem_map] at told
    obtain ⟨launch, -, same⟩ := told
    obtain ⟨rfl, told⟩ := Prod.mk.inj same
    cases kept : kernel.clusterDim with
    | none => exact .inl rfl
    | some dim =>
        simp only [Provider.clusterDim, kept, Except.ok.injEq] at told
        exact .inr (by rw [told])

theorem of_same (consistent : session.Consistent) (outage : after.outage = session.outage)
    (kernels : after.snapshot.kernels = session.snapshot.kernels)
    (grid : after.snapshot.grid = session.snapshot.grid) : after.Consistent := by
  refine ⟨outage.trans consistent.linked, ?_, ?_⟩
  · rw [kernels, grid]
    exact consistent.recorded
  · rw [kernels]
    exact consistent.kept

theorem change (consistent : session.Consistent) {present : Bool} {snapshot : Snapshot}
    (kernels : snapshot.kernels = session.snapshot.kernels) (grid : snapshot.grid = session.snapshot.grid) :
    (session.change present snapshot).session.Consistent := by
  cases present with
  | false => exact consistent
  | true => exact consistent.of_same rfl kernels grid

theorem revise (consistent : session.Consistent) (change : Kernel → Kernel)
    (keeps : ∀ kernel, (change kernel).launch = kernel.launch)
    (drops : ∀ kernel, (change kernel).clusterDim = none ∨ (change kernel).clusterDim = kernel.clusterDim) :
    (session.withKernels (session.snapshot.kernels.revise change keeps)).Consistent := by
  refine ⟨consistent.linked, ?_, ?_⟩
  · intro launch member
    simp only [Session.withKernels, KernelTable.launches_revise] at member
    exact consistent.recorded launch member
  · intro kernel member
    obtain ⟨former, formerMember, rfl⟩ := List.mem_map.mp member
    rcases drops former with dropped | same
    · exact .inl dropped
    · rw [same, keeps]
      exact consistent.kept former formerMember

theorem launch (consistent : session.Consistent) {launch : Launch}
    (free : session.snapshot.kernels.findGrid launch.dev launch.grid = none) :
    (session.withSnapshot (session.snapshot.launch launch)).Consistent := by
  rw [KernelTable.findGrid_eq_none] at free
  refine ⟨consistent.linked, ?_, ?_⟩
  · intro other member
    simp only [withSnapshot, Snapshot.launch, assign, Prod.mk.injEq]
    rcases KernelTable.mem_launches_insert.mp member with rfl | ⟨former, -⟩
    · simp
    · have apart : ¬(other.dev = launch.dev ∧ other.grid = launch.grid) := by
        rintro ⟨dev, grid⟩
        exact free other former dev grid
      rw [if_neg apart]
      exact consistent.recorded other former
  · intro kernel member
    rcases KernelTable.mem_insert.mp member with rfl | ⟨former, -⟩
    · exact .inr rfl
    · exact consistent.kept kernel former

theorem setGridStatus (consistent : session.Consistent) (dev : Ordinal) (grid : GridId) (status : GridStatus) :
    (session.withSnapshot (session.snapshot.setGridStatus dev grid status)).Consistent := by
  refine ⟨consistent.linked, ?_, consistent.kept⟩
  intro launch member
  have recorded := consistent.recorded launch member
  simp only [withSnapshot, Snapshot.setGridStatus, assign]
  split
  · rename_i same
    rw [← same, Option.map_map, ← recorded]
    rfl
  · exact recorded

theorem exitKernel (consistent : session.Consistent) (kernel : Kernel) :
    (session.withSnapshot (session.snapshot.exitKernel kernel)).Consistent := by
  have erased : (session.withKernels (session.snapshot.kernels.erase kernel.id)).Consistent := by
    refine ⟨consistent.linked, ?_, ?_⟩
    · intro launch member
      exact consistent.recorded launch (KernelTable.mem_launches_erase.mp member).1
    · intro other member
      exact consistent.kept other (KernelTable.mem_erase.mp member).1
  exact (erased.setGridStatus kernel.dev kernel.grid .terminated).of_same rfl rfl rfl

theorem edit (consistent : session.Consistent) {edit : Edit} (spared : session.Spares (.edit edit)) :
    (session.edit edit).session.Consistent := by
  cases edit with
  | addFunction start size name =>
      rw [Session.edit, Snapshot.addFunction]
      cases session.snapshot.functions.insert start size name with
      | ok functions => exact consistent.of_same rfl rfl rfl
      | error fault => exact consistent
  | launch launch => exact consistent.launch spared.2
  | exitKernel id =>
      rw [Session.edit]
      cases session.snapshot.kernels.find? id with
      | none => exact consistent
      | some kernel =>
          dsimp only
          split
          · exact consistent.exitKernel kernel
          · exact consistent
  | setGridStatus dev grid status => exact consistent.setGridStatus dev grid status
  | forgetGrid | setOutage => exact spared.elim
  | setClock => exact consistent.of_same rfl rfl rfl
  | setBreakpoint | setSm | setWarp | setLane => exact consistent.change rfl rfl
  | populate site id block first active =>
      rw [Session.edit]
      cases worked : session.snapshot.populate site id block first active with
      | error fault => cases fault <;> exact consistent
      | ok snapshot =>
          obtain ⟨kernels, grid⟩ := Snapshot.tables_of_populate worked
          exact consistent.of_same rfl kernels grid
  | invalidate => exact consistent.revise Kernel.invalidate (fun _ => rfl) fun _ => .inl rfl

theorem perform (consistent : session.Consistent) {step : Step} (spared : session.Spares step) :
    (session.perform step).session.Consistent := by
  cases step with
  | edit edit => exact consistent.edit spared
  | read reading => exact consistent.of_agrees (.read session reading)
  | onKernel id step =>
      rw [Session.perform]
      cases session.snapshot.kernels.find? id with
      | none => exact consistent
      | some kernel =>
          by_cases invalidates : step = .invalidate
          · subst invalidates
            apply consistent.revise fun other => if other.id = kernel.id then other.invalidate else other
            · intro other
              split <;> rfl
            · intro other
              split
              · exact .inl rfl
              · exact .inr rfl
          · exact consistent.of_agrees (.onKernel session kernel invalidates)

end Consistent

theorem Orderly.consistent {shape : Shape} {history : History}
    (orderly : (Snapshot.ofShape shape).session.Orderly history) :
    ((Snapshot.ofShape shape).session.follow history).Consistent := by
  induction orderly with
  | start => exact .ofShape shape
  | step orderly step spared ih => exact ih.perform spared

theorem Orderly.replies_withoutInvalidations {shape : Shape} {history : History}
    (orderly : (Snapshot.ofShape shape).session.Orderly history) :
    (Snapshot.ofShape shape).session.replies history.withoutInvalidations =
      (Snapshot.ofShape shape).session.replies history := by
  induction orderly with
  | start => rfl
  | step orderly step spared ih =>
      rename_i earlier
      cases invalidates : step.invalidates with
      | true =>
          rw [History.withoutInvalidations_of_invalidates invalidates, ih, replies,
            poses_of_invalidates _ invalidates, Option.isSome_none, if_neg Bool.false_ne_true]
      | false =>
          -- Both runs are consistent here, so the query is told the same extents in both.
          have learns := OnlyLearns.follow_withoutInvalidations (Snapshot.ofShape shape).session earlier
          have agrees := (orderly_withoutInvalidations.mpr orderly).consistent.agrees orderly.consistent learns
          rw [History.withoutInvalidations_of_not_invalidates invalidates, replies, replies, learns.poses_eq, ih]
          split
          · rename_i posed
            obtain ⟨query, posed⟩ := Option.isSome_iff_exists.mp posed
            rw [agrees.answer_eq posed]
          · rfl

/-- Wherever invalidations are put into a run, or taken out of it, the queries get the same replies. -/
theorem Orderly.invalidations_unobserved {shape : Shape} {history : History}
    (orderly : (Snapshot.ofShape shape).session.Orderly history) :
    ((Snapshot.ofShape shape).session.follow history).Consistent ∧
      ∀ other : History, other.withoutInvalidations = history.withoutInvalidations →
        (Snapshot.ofShape shape).session.replies other = (Snapshot.ofShape shape).session.replies history := by
  refine ⟨orderly.consistent, ?_⟩
  intro other same
  have otherOrderly : (Snapshot.ofShape shape).session.Orderly other := by
    rw [← orderly_withoutInvalidations, same, orderly_withoutInvalidations]
    exact orderly
  rw [← otherOrderly.replies_withoutInvalidations, same, orderly.replies_withoutInvalidations]

end Session

/-- A run in which a grid gets another kernel, with clusters of another extent, and all that is kept is dropped. -/
def History.relaunching : History :=
  let launch (kernel : KernelId) (clusterDim : Dim3) : Launch :=
    { kernel, dev := 0, grid := 3, moduleId := 1, entry := 0x40, gridDim := ⟨4, 4, 1⟩, blockDim := ⟨1, 1, 1⟩, clusterDim,
      type := .application, origin := .cpu, parent := none }
  [.read .firstValidThread, .edit .invalidate, .edit (.populate ⟨0, 0, 0⟩ 8 ⟨3, 3, 0⟩ 0 1),
    .edit (.launch (launch 8 ⟨1, 2, 1⟩)), .edit (.exitKernel 7), .read .firstValidThread,
    .onKernel 7 .invalidate, .edit (.populate ⟨0, 0, 0⟩ 7 ⟨3, 3, 0⟩ 0 1), .edit (.launch (launch 7 ⟨2, 1, 1⟩))]

namespace Session

theorem Orderly.relaunching : (Snapshot.ofShape ⟨1, 1, 1, 1⟩).session.Orderly History.relaunching := by
  refine .step (.step (.step (.step (.step (.step (.step (.step (.step .start
    _ ?_) _ ?_) _ ?_) _ ?_) _ ?_) _ ?_) _ ?_) _ ?_) _ ?_
  · exact ⟨rfl, rfl⟩
  · trivial
  · trivial
  · trivial
  · trivial
  · exact ⟨rfl, rfl⟩
  · trivial
  · trivial
  · trivial

theorem relaunching_unobserved :
    ((Snapshot.ofShape ⟨1, 1, 1, 1⟩).session.follow .relaunching).Consistent ∧
      ((Snapshot.ofShape ⟨1, 1, 1, 1⟩).session.follow .relaunching).snapshot.gridQueries = 2 ∧
      ((Snapshot.ofShape ⟨1, 1, 1, 1⟩).session.follow (History.withoutInvalidations .relaunching)).snapshot.gridQueries = 0 ∧
      (∃ before after, (Snapshot.ofShape ⟨1, 1, 1, 1⟩).session.replies .relaunching =
        [.ok (.coords (some after)), .ok (.coords (some before))]) ∧
      (Snapshot.ofShape ⟨1, 1, 1, 1⟩).session.replies (History.withoutInvalidations .relaunching) =
        (Snapshot.ofShape ⟨1, 1, 1, 1⟩).session.replies .relaunching := by
  obtain ⟨consistent, unobserved⟩ := Orderly.relaunching.invalidations_unobserved
  exact ⟨consistent, by cbv, by cbv, ⟨_, _, by cbv⟩, unobserved _ rfl⟩

end Session

end LaneScope
