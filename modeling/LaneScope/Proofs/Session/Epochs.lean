import Mathlib
import LaneScope.Proofs.Session.Lookups

/-!
Epochs of what is kept about a kernel.  An epoch lasts from the launch, or from an invalidation, to the next one.  Main
statement: what the launch tells of an aspect, or else what the first successful look-up of the epoch got, is told for
the rest of the epoch; until then each step that asks looks up again.
-/

namespace LaneScope

def Launch.seed (launch : Launch) : (aspect : Aspect) → Option aspect.Value
  | .clusterDim => some launch.clusterDim
  | .gridStatus => none

def History.dropped (id : KernelId) (history : History) : Bool :=
  history.any (Step.drops id)

namespace Session

def fetches (start : Session) (launch : Launch) (aspect : Aspect) : History → List aspect.Value
  | [] => []
  | step :: earlier =>
    if step.drops launch.kernel then []
    else start.fetches launch aspect earlier ++ (start.follow earlier).fetched launch aspect step

def held (start : Session) (launch : Launch) (aspect : Aspect) (history : History) : Option aspect.Value :=
  (if history.dropped launch.kernel then none else launch.seed aspect).or (start.fetches launch aspect history).head?

def told (start : Session) (launch : Launch) (aspect : Aspect) (history : History) : Except LookupFault aspect.Value :=
  match start.held launch aspect history with
  | some value => .ok value
  | none => (start.follow history).provider.provided launch aspect

def lookupReply {α : Type} (answer : α → Answer) : Except LookupFault α → Except Fault Answer
  | .ok value => .ok (answer value)
  | .error fault => .error (.lookup fault)

structure KeepsEpochs (start : Session) (launch : Launch) (history : History) : Prop where
  once : ∀ aspect, (start.fetches launch aspect history).length ≤ 1
  seeded : history.dropped launch.kernel = false → start.fetches launch .clusterDim history = []
  asked : ∀ aspect step, .aspect launch.kernel aspect ∈ (start.follow history).lookups step ↔
    (start.follow history).asks launch.kernel aspect step = true ∧ start.held launch aspect history = none
  counted : ∀ step, (start.follow history).Counts step ((start.follow history).perform step).session
  clusterDim : ((start.follow history).perform (.onKernel launch.kernel .clusterDim)).answer =
    lookupReply .dim (start.told launch .clusterDim history)
  gridStatus : ((start.follow history).perform (.onKernel launch.kernel .gridStatus)).answer =
    lookupReply .gridStatus (start.told launch .gridStatus history)
  present : ((start.follow history).perform (.onKernel launch.kernel .present)).answer =
    lookupReply (fun status => .flag (decide (status = .active ∨ status = .sleeping)))
      (start.told launch .gridStatus history)
  described : ∃ kernel, (start.follow history).snapshot.kernels.find? launch.kernel = some kernel ∧
    ((start.follow history).perform (.onKernel launch.kernel .describe)).answer =
      lookupReply (fun status => .text (kernel.describe (decide (status = .active ∨ status = .sleeping))))
        (start.told launch .gridStatus history)
  queried : ∃ kernel, (start.follow history).snapshot.kernels.find? launch.kernel = some kernel ∧
    (start.follow history).provider.clusterDim kernel = start.told launch .clusterDim history

section

variable {session : Session} {kernel : Kernel} {launch : Launch} {aspect : Aspect}

theorem held_cons (start : Session) (launch : Launch) (aspect : Aspect) (step : Step) (earlier : History) :
    start.held launch aspect (step :: earlier) = if step.drops launch.kernel then none
      else (start.held launch aspect earlier).or ((start.follow earlier).fetched launch aspect step).head? := by
  cases drops : step.drops launch.kernel with
  | true => simp [held, History.dropped, fetches, drops]
  | false => simp [held, History.dropped, fetches, drops, Option.or_assoc]

theorem exists_held (session : Session) (launch : Launch) {history : History}
    (retained : ∀ step ∈ history, step.retains launch.kernel = true) :
    ∃ kernel, ((session.launched launch).follow history).snapshot.kernels.find? launch.kernel = some kernel ∧
      kernel.launch = launch ∧ ∀ aspect, kernel.kept aspect = (session.launched launch).held launch aspect history := by
  induction history with
  | nil =>
      refine ⟨_, session.find?_launched launch, rfl, ?_⟩
      intro aspect
      cases aspect <;> rfl
  | cons step earlier ih =>
      rw [List.forall_mem_cons] at retained
      obtain ⟨kernel, known, same, kept⟩ := ih retained.2
      have named : kernel.id = launch.kernel := congrArg Launch.kernel same
      rw [← named] at known retained ⊢
      obtain ⟨kernel', found, tends⟩ := tendsTo_perform known retained.1
      refine ⟨kernel', found, tends.launch.trans same, ?_⟩
      intro aspect
      rw [held_cons, tends.kept_fetched known, kept, named, same]

theorem fetches_of_unheld {start : Session} {history : History}
    (unheld : start.held launch aspect history = none) : start.fetches launch aspect history = [] := by
  rw [held, Option.or_eq_none_iff] at unheld
  exact List.head?_eq_none_iff.mp unheld.2

theorem length_fetches_le (session : Session) (launch : Launch) {history : History}
    (retained : ∀ step ∈ history, step.retains launch.kernel = true) (aspect : Aspect) :
    ((session.launched launch).fetches launch aspect history).length ≤ 1 := by
  induction history with
  | nil => exact Nat.zero_le 1
  | cons step earlier ih =>
      rw [List.forall_mem_cons] at retained
      obtain ⟨kernel, known, same, kept⟩ := session.exists_held launch retained.2
      have named : kernel.id = launch.kernel := congrArg Launch.kernel same
      rw [← named] at known
      rw [fetches]
      split
      · exact Nat.zero_le 1
      · -- As long as nothing is held nothing has been got, and what is held is not looked up again.
        cases held : (session.launched launch).held launch aspect earlier with
        | none =>
            have short : (((session.launched launch).follow earlier).fetched kernel.launch aspect step).length ≤ 1 :=
              length_fetched_le known step
            rw [same] at short
            rwa [fetches_of_unheld held]
        | some value =>
            have unfetched := fetched_of_kept known ((kept aspect).trans held) step
            rw [same] at unfetched
            rw [unfetched, List.append_nil]
            exact ih retained.2

theorem fetches_of_seeded (session : Session) (launch : Launch) {history : History}
    (retained : ∀ step ∈ history, step.retains launch.kernel = true) (undropped : history.dropped launch.kernel = false)
    {value : aspect.Value} (seed : launch.seed aspect = some value) :
    (session.launched launch).fetches launch aspect history = [] := by
  induction history with
  | nil => rfl
  | cons step earlier ih =>
      rw [List.forall_mem_cons] at retained
      simp only [History.dropped, List.any_cons, Bool.or_eq_false_iff] at undropped
      obtain ⟨kernel, known, same, kept⟩ := session.exists_held launch retained.2
      have named : kernel.id = launch.kernel := congrArg Launch.kernel same
      rw [← named] at known
      have held : (session.launched launch).held launch aspect earlier = some value := by
        simp [Session.held, History.dropped, undropped.2, seed]
      have unfetched := fetched_of_kept known ((kept aspect).trans held) step
      rw [same] at unfetched
      rw [fetches, undropped.1, if_neg Bool.false_ne_true, ih retained.2 undropped.2, unfetched]
      rfl

theorem provider_told {start : Session} {history : History} (same : kernel.launch = launch)
    (kept : ∀ aspect, kernel.kept aspect = start.held launch aspect history) :
    (start.follow history).provider.clusterDim kernel = start.told launch .clusterDim history ∧
      (start.follow history).provider.gridStatus kernel = start.told launch .gridStatus history := by
  subst same
  constructor
  · rw [told, ← kept, Provider.clusterDim, Kernel.kept]
    cases kernel.clusterDim <;> rfl
  · rw [told, ← kept, Provider.gridStatus, Kernel.kept]
    cases kernel.gridStatus <;> rfl

theorem answer_looked {α : Type} (answer : α → Answer) (reply : Except LookupFault α × Session) :
    (looked answer reply).answer = lookupReply answer reply.1 := by
  obtain ⟨outcome, after⟩ := reply
  cases outcome <;> rfl

theorem lookupReply_map {α β : Type} (answer : β → Answer) (view : α → β) (outcome : Except LookupFault α) :
    lookupReply answer (outcome.map view) = lookupReply (fun value => answer (view value)) outcome := by
  cases outcome <;> rfl

theorem isPresent_eq (status : GridStatus) : status.isPresent = decide (status = .active ∨ status = .sleeping) := by
  cases status <;> rfl

/-- Over steps that keep a launched kernel registered, an aspect is told by the launch until the first invalidation, and
afterwards as the first successful look-up since the latest one got it. -/
theorem launched_keepsEpochs (session : Session) (launch : Launch) {history : History}
    (retained : ∀ step ∈ history, step.retains launch.kernel = true) :
    (session.launched launch).KeepsEpochs launch history := by
  obtain ⟨kernel, known, same, kept⟩ := session.exists_held launch retained
  have named : kernel.id = launch.kernel := congrArg Launch.kernel same
  have clusterTold := (provider_told same kept).1
  have statusTold := (provider_told same kept).2
  constructor
  case once => exact session.length_fetches_le launch retained
  case seeded => exact fun undropped => session.fetches_of_seeded launch retained undropped rfl
  case asked =>
    intro aspect step
    rw [← kept, ← named]
    rw [← named] at known
    exact mem_lookups known step
  case counted => exact counts_perform _
  case clusterDim =>
    rw [perform, known, ← clusterTold]
    exact answer_looked _ _
  case gridStatus =>
    rw [perform, known, ← statusTold]
    exact answer_looked _ _
  case present =>
    rw [perform, known, ← statusTold]
    refine (answer_looked _ _).trans ((lookupReply_map _ _ _).trans ?_)
    simp only [isPresent_eq]
  case described =>
    refine ⟨kernel, known, ?_⟩
    rw [perform, known, ← statusTold]
    refine (answer_looked _ _).trans ((lookupReply_map _ _ _).trans ((lookupReply_map _ _ _).trans ?_))
    simp only [isPresent_eq]
  case queried => exact ⟨kernel, known, clusterTold⟩

end

end Session

def Launch.clustered : Launch :=
  { kernel := 7, dev := 0, grid := 3, moduleId := 1, entry := 0x40, gridDim := ⟨4, 1, 1⟩, blockDim := ⟨2, 1, 1⟩,
    clusterDim := ⟨2, 1, 1⟩, type := .application, origin := .cpu, parent := none }

def Session.clustered : Session :=
  (Snapshot.ofShape ⟨1, 1, 1, 1⟩).session.launched .clustered

/-- All that is kept is dropped, a first look-up fails, a second one succeeds, and the status changes afterwards. -/
def History.recovering : History :=
  [.edit (.setGridStatus 0 3 .terminated), .onKernel 7 .present, .edit (.setOutage none), .onKernel 7 .gridStatus,
    .edit (.setOutage (some "link down")), .edit .invalidate, .onKernel 7 .clusterDim]

theorem Session.recovering_keepsEpochs :
    clustered.fetches .clustered .gridStatus .recovering = [.active] ∧
      ((clustered.follow .recovering).snapshot.grid (0, 3)).map GridRecord.status = some .terminated ∧
      ((clustered.follow .recovering).perform (.onKernel 7 .gridStatus)).answer = .ok (.gridStatus .active) := by
  have keeps : clustered.KeepsEpochs .clustered .recovering := launched_keepsEpochs _ _ (by decide)
  refine ⟨?_, ?_, keeps.gridStatus.trans ?_⟩
  · cbv
  · cbv
  · cbv

end LaneScope
