import LaneScope.Proofs.Query.Rounds
import LaneScope.Proofs.Session.Aspects
import LaneScope.Proofs.Session.Congruence

/-!
What a step makes of a kernel that stays registered.  Reading frames settles its arguments, asking for an attribute
keeps what the records tell of it, an invalidation drops the attributes, and nothing else touches any of these.
-/

namespace LaneScope

namespace Step

def retains (id : KernelId) : Step → Bool
  | .edit (.launch launch) => launch.kernel != id
  | .edit (.exitKernel exited) => exited != id
  | _ => true

def drops (id : KernelId) : Step → Bool
  | .edit .invalidate => true
  | .onKernel invalidated .invalidate => invalidated == id
  | _ => false

def shows (id : KernelId) : Step → Option Frames
  | .read (.updateArguments frames) => some frames
  | .onKernel shown (.readArguments frames) | .onKernel shown (.arguments frames) =>
    if shown = id then some frames else none
  | _ => none

end Step

theorem Provider.kernels_smsOf_of_absent {provider : Provider} {kernel : Kernel}
    (absent : provider.snapshot.hasDevice kernel.dev = false) : (provider.evaluate (Focus.smsOf kernel)).kernels = [] := by
  have shut : ∀ site ∈ provider.snapshot.sites, (Focus.smsOf kernel).enters provider.snapshot site = false := by
    intro site member
    obtain ⟨dev, inRange, onDevice⟩ := List.mem_flatMap.mp member
    have apart : kernel.dev ≠ dev := by
      rintro rfl
      simp [Snapshot.hasDevice, mem_ordinals.mp inRange] at absent
    simp [Query.enters, Query.opensDevice, Focus.smsOf, Field.accepts, Field.isWildcard,
      Snapshot.dev_of_mem_sitesOnDevice onDevice, apart]
  have walked : ((Focus.smsOf kernel).walk provider).kernels = [] := by
    rw [Query.walk_eq_survey, Query.survey_of_not_enters shut]
    rfl
  exact walked

namespace Session

def consults (session : Session) (step : Step) : List KernelId :=
  match session.poses step with
  | some query => (session.provider.evaluate query).kernels
  | none => []

def inquires (session : Session) : Step → Aspect × List KernelId
  | .onKernel id .clusterDim => (.clusterDim, [id])
  | .onKernel id .gridStatus | .onKernel id .present | .onKernel id .describe => (.gridStatus, [id])
  | step => (.clusterDim, session.consults step)

def asks (session : Session) (id : KernelId) (aspect : Aspect) (step : Step) : Bool :=
  (session.inquires step).1 == aspect && (session.inquires step).2.contains id

def launched (session : Session) (launch : Launch) : Session :=
  (session.perform (.edit (.launch launch))).session

theorem find?_launched (session : Session) (launch : Launch) :
    (session.launched launch).snapshot.kernels.find? launch.kernel = some (session.snapshot.kernelOf launch) :=
  KernelTable.find?_insert_self _ _

theorem inquires_smMask {session : Session} {kernel : Kernel}
    (known : session.snapshot.kernels.find? kernel.id = some kernel) :
    session.inquires (.onKernel kernel.id .smMask) =
      (.clusterDim, (session.provider.evaluate (Focus.smsOf kernel)).kernels) := by
  simp only [inquires, consults, poses, known, Option.map_some]

theorem inquires_smMask_of_absent {session : Session} {kernel : Kernel}
    (known : session.snapshot.kernels.find? kernel.id = some kernel)
    (absent : session.snapshot.hasDevice kernel.dev = false) :
    session.inquires (.onKernel kernel.id .smMask) = (.clusterDim, []) := by
  rw [inquires_smMask known, Provider.kernels_smsOf_of_absent]
  rwa [provider_snapshot]

theorem asks_of_idle {session : Session} {step : Step} (idle : (session.inquires step).2 = []) (id : KernelId)
    (aspect : Aspect) : session.asks id aspect step = false := by
  simp [asks, idle]

structure Tends (session : Session) (step : Step) (kernel kernel' : Kernel) : Prop where
  launch : kernel'.launch = kernel.launch
  arguments : kernel'.arguments =
    (step.shows kernel.id).elim kernel.arguments fun frames => (kernel.readArguments frames).arguments
  kept : ∀ aspect, kernel'.kept aspect =
    if step.drops kernel.id then none
    else (kernel.kept aspect).or
      (if session.asks kernel.id aspect step then (session.provider.provided kernel.launch aspect).toOption else none)

namespace Tends

variable {session : Session} {step : Step} {kernel : Kernel}

theorem untouched (launched : Bool) (depth : Option Nat) (unshown : step.shows kernel.id = none)
    (undropped : step.drops kernel.id = false) (unasked : ∀ aspect, session.asks kernel.id aspect step = false) :
    session.Tends step kernel { kernel with launched, depth } where
  launch := rfl
  arguments := by rw [unshown]; rfl
  kept aspect := by
    rw [undropped, unasked]
    cases aspect <;> exact Option.or_none.symm

theorem learnt {aspect : Aspect} {ids : List KernelId} (launched : Bool) (depth : Option Nat)
    (unshown : step.shows kernel.id = none) (undropped : step.drops kernel.id = false)
    (inquiry : session.inquires step = (aspect, ids)) :
    session.Tends step kernel
      { kernel.learn aspect
          (if ids.contains kernel.id then (session.provider.provided kernel.launch aspect).toOption else none) with
        launched, depth } where
  launch := kernel.launch_learn aspect _
  arguments := by
    rw [unshown]
    exact kernel.arguments_learn aspect _
  kept other := by
    rw [undropped, asks, inquiry]
    by_cases same : other = aspect
    · subst same
      simp only [beq_self_eq_true, Bool.true_and]
      exact kernel.kept_learn other _
    · simp only [beq_false_of_ne (Ne.symm same), Bool.false_and]
      exact (Kernel.kept_learn_of_ne same _).trans Option.or_none.symm

theorem dropped (unshown : step.shows kernel.id = none) (dropped : step.drops kernel.id = true) :
    session.Tends step kernel kernel.invalidate where
  launch := rfl
  arguments := by rw [unshown]; rfl
  kept aspect := by
    rw [if_pos dropped]
    cases aspect <;> rfl

theorem settled {frames : Frames} (shown : step.shows kernel.id = some frames) (undropped : step.drops kernel.id = false)
    (unasked : ∀ aspect, session.asks kernel.id aspect step = false) :
    session.Tends step kernel { kernel with arguments := (kernel.readArguments frames).arguments } where
  launch := rfl
  arguments := by rw [shown]; rfl
  kept aspect := by
    rw [undropped, unasked]
    cases aspect <;> exact Option.or_none.symm

end Tends

end Session

namespace KernelTable

variable {table after : KernelTable} {id : KernelId} {kernel : Kernel}

theorem find?_readArguments (known : table.find? id = some kernel) (frames : Frames) :
    (table.readArguments frames).find? id = some { kernel with arguments := (kernel.readArguments frames).arguments } :=
  (find?_revise table (fun kernel => { kernel with arguments := (kernel.readArguments frames).arguments })
    (fun _ => rfl) id).trans (congrArg _ known)

theorem find?_depth {asked : Kernel} {depth : Nat} (told : table.depth asked = .ok (depth, after))
    (known : table.find? id = some kernel) :
    ∃ launched depth, after.find? id = some { kernel with launched, depth } := by
  rw [KernelTable.depth] at told
  split at told
  · contradiction
  · obtain ⟨-, rfl⟩ := Prod.mk.inj (Except.ok.inj told)
    exact find?_foldl (fun learnt found => find?_setDepth found learnt.1 learnt.2) known _

theorem find?_reports {settings : Settings} {asked : Kernel} {reported : Bool}
    (told : table.reports settings asked = .ok (reported, after)) (known : table.find? id = some kernel) :
    ∃ launched depth, after.find? id = some { kernel with launched, depth } := by
  simp only [reports] at told
  split at told
  · obtain ⟨-, rfl⟩ := Prod.mk.inj (Except.ok.inj told)
    exact ⟨kernel.launched, kernel.depth, known⟩
  · split at told
    · contradiction
    · rename_i measured
      obtain ⟨-, rfl⟩ := Prod.mk.inj (Except.ok.inj told)
      exact find?_depth measured known

end KernelTable

namespace Session

variable {session : Session} {id : KernelId} {kernel : Kernel}

def TendsTo (session : Session) (step : Step) (kernel : Kernel) (after : Session) : Prop :=
  ∃ kernel', after.snapshot.kernels.find? kernel.id = some kernel' ∧ session.Tends step kernel kernel'

namespace TendsTo

variable {after : Session} {step : Step}

theorem marked (found : ∃ launched depth, after.snapshot.kernels.find? kernel.id = some { kernel with launched, depth })
    (unshown : step.shows kernel.id = none) (undropped : step.drops kernel.id = false)
    (unasked : ∀ aspect, session.asks kernel.id aspect step = false) : session.TendsTo step kernel after := by
  obtain ⟨launched, depth, found⟩ := found
  exact ⟨_, found, .untouched launched depth unshown undropped unasked⟩

theorem same (found : after.snapshot.kernels.find? kernel.id = some kernel) (unshown : step.shows kernel.id = none)
    (undropped : step.drops kernel.id = false) (unasked : ∀ aspect, session.asks kernel.id aspect step = false) :
    session.TendsTo step kernel after :=
  marked ⟨kernel.launched, kernel.depth, found⟩ unshown undropped unasked

theorem edit (known : session.snapshot.kernels.find? kernel.id = some kernel) {edit : Edit}
    (retained : (Step.edit edit).retains kernel.id = true) :
    session.TendsTo (.edit edit) kernel (session.edit edit).session := by
  have unasked : ∀ aspect, session.asks kernel.id aspect (.edit edit) = false := asks_of_idle rfl kernel.id
  cases edit with
  | invalidate => exact ⟨_, KernelTable.find?_invalidateAll known, .dropped rfl rfl⟩
  | launch launch =>
      have apart : launch.kernel ≠ kernel.id := bne_iff_ne.mp retained
      exact same ((KernelTable.find?_insert_of_ne apart.symm).trans known) rfl rfl unasked
  | exitKernel exited =>
      have apart : exited ≠ kernel.id := bne_iff_ne.mp retained
      refine same ?_ rfl rfl unasked
      rw [Session.edit]
      split
      · exact known
      · rename_i leaving found
        obtain ⟨-, rfl⟩ := KernelTable.find?_eq_some.mp found
        split
        · exact (KernelTable.find?_erase_of_ne apart.symm).trans known
        · exact known
  | addFunction start size name =>
      refine same ?_ rfl rfl unasked
      rw [Session.edit, Snapshot.addFunction]
      cases session.snapshot.functions.insert start size name <;> exact known
  | populate site worked block first active =>
      refine same ?_ rfl rfl unasked
      rw [Session.edit]
      cases populated : session.snapshot.populate site worked block first active with
      | error fault => cases fault <;> exact known
      | ok snapshot => rwa [← (Snapshot.tables_of_populate populated).1] at known
  | setGridStatus | forgetGrid | setClock | setOutage => exact same known rfl rfl unasked
  | setBreakpoint | setSm | setWarp | setLane =>
      refine same ?_ rfl rfl unasked
      rw [Session.edit, change]
      split <;> exact known

theorem learnt {aspect : Aspect} {ids : List KernelId} (known : session.snapshot.kernels.find? kernel.id = some kernel)
    (unshown : step.shows kernel.id = none) (undropped : step.drops kernel.id = false)
    (inquiry : session.inquires step = (aspect, ids)) :
    session.TendsTo step kernel (session.learn (ids.foldl fun snapshot => snapshot.learnAspect aspect)) :=
  ⟨_, find?_learn known aspect ids, .learnt _ _ unshown undropped inquiry⟩

theorem read (known : session.snapshot.kernels.find? kernel.id = some kernel) (reading : Reading) :
    session.TendsTo (.read reading) kernel (session.read reading).session := by
  cases reading with
  | gridQueries | counts | kernels | findGrid => exact same known rfl rfl (asks_of_idle rfl _)
  | sm | warp | breakpointAt =>
      refine same ?_ rfl rfl (asks_of_idle rfl _)
      rw [Session.read]
      split <;> exact known
  | gridInfo dev grid | gridStatusOf dev grid =>
      refine same ?_ rfl rfl (asks_of_idle rfl _)
      rw [Session.read, lookup, learn]
      cases session.outage with
      | none => cases session.provider.lookup dev grid <;> exact known
      | some reason => cases session.provider.lookup dev grid <;> exact known
  | query | firstValidThread | firstTrap | firstException | nearestAtBreakpoint | logicalOf | physicalOf =>
      rw [Session.read, session_put, session_ask]
      exact learnt known rfl rfl rfl
  | residentKernels =>
      -- The kernels are marked after the look-ups, and a mark changes nothing of what was looked up.
      have found := find?_learn known .clusterDim (session.provider.evaluate Focus.residentKernels).kernels
      rw [← session_ask] at found
      rw [Session.read, residentKernels]
      cases answered : session.ask Focus.residentKernels with
      | mk outcome after =>
          rw [answered] at found
          cases outcome with
          | error fault => exact ⟨_, found, .learnt _ _ rfl rfl rfl⟩
          | ok set =>
              obtain ⟨launched, depth, marked⟩ :=
                KernelTable.find?_foldl (fun id found => KernelTable.find?_setLaunched found id true) found set.kernelIds
              exact ⟨_, marked, .learnt launched depth rfl rfl rfl⟩
  | updateArguments frames =>
      exact ⟨_, KernelTable.find?_readArguments known frames, .settled rfl rfl (asks_of_idle rfl _)⟩

theorem onKernel (known : session.snapshot.kernels.find? kernel.id = some kernel) {other : Kernel}
    (otherKnown : session.snapshot.kernels.find? other.id = some other) (step : KernelStep) :
    session.TendsTo (.onKernel other.id step) kernel (session.onKernel other step).session := by
  cases step with
  | summary | children => exact same known rfl rfl (asks_of_idle rfl _)
  | setLaunched mark =>
      exact marked (KernelTable.find?_setLaunched known other.id mark) rfl rfl (asks_of_idle rfl _)
  | depth =>
      refine marked ?_ rfl rfl (asks_of_idle rfl _)
      rw [Session.onKernel]
      split
      · rename_i told
        exact KernelTable.find?_depth told known
      · exact ⟨kernel.launched, kernel.depth, known⟩
  | shouldReport settings =>
      refine marked ?_ rfl rfl (asks_of_idle rfl _)
      rw [Session.onKernel]
      split
      · rename_i told
        exact KernelTable.find?_reports told known
      · exact ⟨kernel.launched, kernel.depth, known⟩
  | clusterDim =>
      rw [Session.onKernel, session_looked, session_clusterDim]
      exact learnt known rfl rfl rfl
  | gridStatus | present | describe =>
      rw [Session.onKernel, session_looked]
      change session.TendsTo _ kernel (session.gridStatus other).2
      rw [session_gridStatus]
      exact learnt known rfl rfl rfl
  | invalidate =>
      refine ⟨_, KernelTable.find?_invalidate known other.id, ?_⟩
      by_cases same : kernel.id = other.id
      · rw [if_pos same]
        exact .dropped rfl (beq_iff_eq.mpr same.symm)
      · rw [if_neg same]
        exact .untouched _ _ rfl (beq_false_of_ne (Ne.symm same)) (asks_of_idle rfl _)
  | smMask =>
      rw [Session.onKernel]
      split
      · rw [session_put, session_ask]
        exact learnt known rfl rfl (inquires_smMask otherKnown)
      · rename_i absent
        have inquiry := inquires_smMask_of_absent otherKnown (Bool.eq_false_iff.mpr absent)
        exact same known rfl rfl (asks_of_idle (congrArg Prod.snd inquiry) _)
  | readArguments frames | arguments frames =>
      refine ⟨_, KernelTable.find?_setArguments known other.id (other.readArguments frames).arguments, ?_⟩
      by_cases same : kernel.id = other.id
      · rw [← same, known] at otherKnown
        obtain rfl := Option.some.inj otherKnown
        rw [if_pos rfl]
        exact .settled (if_pos rfl) rfl (asks_of_idle rfl _)
      · rw [if_neg same]
        exact .untouched _ _ (if_neg (Ne.symm same)) rfl (asks_of_idle rfl _)

end TendsTo

/-- A kernel that a step retains is registered afterwards as what the step makes of it. -/
theorem tendsTo_perform {step : Step} (known : session.snapshot.kernels.find? kernel.id = some kernel)
    (retained : step.retains kernel.id = true) : session.TendsTo step kernel (session.perform step).session := by
  cases step with
  | edit edit => exact .edit known retained
  | read reading => exact .read known reading
  | onKernel asked step =>
      rw [perform]
      split
      · rename_i unknown
        have apart : asked ≠ kernel.id := by
          rintro rfl
          simp [known] at unknown
        refine .same known ?_ ?_ ?_
        · cases step <;> simp [Step.shows, apart]
        · cases step <;> simp [Step.drops, apart]
        · intro aspect
          cases step <;> simp [asks, inquires, consults, poses, unknown, apart.symm]
      · rename_i other found
        obtain ⟨-, rfl⟩ := KernelTable.find?_eq_some.mp found
        exact .onKernel known found step

end Session

end LaneScope
