import LaneScope.Proofs.Session.Aspects

/-!
What reading leaves as it was.  A read may only learn: it changes what is kept about kernels and counts look-ups, and
nothing else.  The same holds for every step on one kernel.  Main statement: unless the step is an invalidation,
queries are told the same cluster extents afterwards, from what is kept or from the records.
-/

namespace LaneScope

namespace KernelTable

theorem keptExtents_depth {table after : KernelTable} {kernel : Kernel} {depth : Nat}
    (told : table.depth kernel = .ok (depth, after)) : after.keptExtents = table.keptExtents := by
  rw [KernelTable.depth] at told
  split at told
  · simp at told
  · simp only [Except.ok.injEq, Prod.mk.injEq] at told
    rw [← told.2]
    exact keptExtents_foldl _ (fun _ _ => keptExtents_setDepth ..) _ _

theorem keptExtents_reports {table after : KernelTable} {settings : Settings} {kernel : Kernel} {reported : Bool}
    (told : table.reports settings kernel = .ok (reported, after)) : after.keptExtents = table.keptExtents := by
  simp only [reports] at told
  split at told
  · simp only [Except.ok.injEq, Prod.mk.injEq] at told
    rw [told.2]
  · split at told
    · simp at told
    · rename_i found
      simp only [Except.ok.injEq, Prod.mk.injEq] at told
      rw [← told.2]
      exact keptExtents_depth found

end KernelTable

namespace Snapshot

structure OnlyLearns (before after : Snapshot) : Prop where
  shape : after.shape = before.shape
  sm : after.sm = before.sm
  warp : after.warp = before.warp
  clock : after.clock = before.clock
  breakpoint : after.breakpoint = before.breakpoint
  functions : after.functions = before.functions
  grid : after.grid = before.grid
  launches : after.kernels.launches = before.kernels.launches

namespace OnlyLearns

variable {before middle after : Snapshot}

theorem refl (snapshot : Snapshot) : snapshot.OnlyLearns snapshot :=
  ⟨rfl, rfl, rfl, rfl, rfl, rfl, rfl, rfl⟩

theorem trans (first : before.OnlyLearns middle) (second : middle.OnlyLearns after) : before.OnlyLearns after :=
  ⟨second.shape.trans first.shape, second.sm.trans first.sm, second.warp.trans first.warp,
    second.clock.trans first.clock, second.breakpoint.trans first.breakpoint, second.functions.trans first.functions,
    second.grid.trans first.grid, second.launches.trans first.launches⟩

theorem symm (learns : before.OnlyLearns after) : after.OnlyLearns before :=
  ⟨learns.shape.symm, learns.sm.symm, learns.warp.symm, learns.clock.symm, learns.breakpoint.symm,
    learns.functions.symm, learns.grid.symm, learns.launches.symm⟩

theorem withKernels {kernels : KernelTable} (same : kernels.launches = before.kernels.launches) :
    before.OnlyLearns { before with kernels } :=
  ⟨rfl, rfl, rfl, rfl, rfl, rfl, rfl, same⟩

theorem find?_cases (learns : before.OnlyLearns after) (id : KernelId) :
    (before.kernels.find? id = none ∧ after.kernels.find? id = none) ∨
      ∃ kernel kernel', before.kernels.find? id = some kernel ∧ after.kernels.find? id = some kernel' ∧
        kernel'.launch = kernel.launch := by
  apply KernelTable.both_of_map_eq
  rw [KernelTable.map_launch_find?, KernelTable.map_launch_find?, learns.launches]

theorem countLookup (snapshot : Snapshot) : snapshot.OnlyLearns snapshot.countLookup :=
  ⟨rfl, rfl, rfl, rfl, rfl, rfl, rfl, rfl⟩

theorem learnAspect (snapshot : Snapshot) (aspect : Aspect) (id : KernelId) :
    snapshot.OnlyLearns (snapshot.learnAspect aspect id) := by
  rw [Snapshot.learnAspect]
  split
  · exact refl snapshot
  · split
    · exact refl snapshot
    · split
      · exact countLookup snapshot
      · exact (countLookup snapshot).trans (withKernels (KernelTable.launches_reviseAt ..))

end OnlyLearns

end Snapshot

def Provider.extents (provider : Provider) : List (Launch × Except LookupFault Dim3) :=
  provider.snapshot.kernels.kernels.map fun kernel => (kernel.launch, provider.clusterDim kernel)

theorem Provider.extents_congr {provider other : Provider} (lookup : provider.lookup = other.lookup)
    (same : provider.snapshot.kernels.keptExtents = other.snapshot.kernels.keptExtents) :
    provider.extents = other.extents := by
  have told (provider : Provider) : provider.extents = provider.snapshot.kernels.keptExtents.map
      fun (launch, kept) => (launch, provider.clusterDim ⟨launch, "", false, none, kept, none, .unknown⟩) := by
    rw [extents, KernelTable.keptExtents, List.map_map]
    rfl
  rw [told, told, same]
  simp only [clusterDim, lookup]

namespace Snapshot

theorem extents_learnAspect (snapshot : Snapshot) (aspect : Aspect) (id : KernelId) :
    (snapshot.learnAspect aspect id).provider.extents = snapshot.provider.extents := by
  rw [learnAspect]
  split
  · rfl
  · rename_i kernel found
    obtain ⟨member, rfl⟩ := KernelTable.find?_eq_some.mp found
    split
    · rfl
    · rename_i dropped
      split
      · rfl
      · rename_i record recorded
        cases aspect with
        | gridStatus => exact Provider.extents_congr rfl (KernelTable.keptExtents_setGridStatus ..)
        | clusterDim =>
            -- The extent that is kept from now on is the one that the record tells.
            simp only [Provider.extents, provider, countLookup, KernelTable.reviseAt, KernelTable.revise, List.map_map]
            apply List.map_congr_left
            intro other otherMember
            by_cases same : other.id = kernel.id
            · rw [KernelTable.eq_of_id_eq otherMember member same]
              have lacking : kernel.clusterDim = none := dropped
              simp [Provider.clusterDim, lookup, lacking, recorded, Except.map, Kernel.keep, GridRecord.get]
            · simp only [Function.comp_apply, same, if_false]
              rfl

theorem foldl_learnAspect (ids : List KernelId) (aspect : Aspect) (snapshot : Snapshot) :
    snapshot.OnlyLearns (ids.foldl (fun snapshot => snapshot.learnAspect aspect) snapshot) ∧
      (ids.foldl (fun snapshot => snapshot.learnAspect aspect) snapshot).provider.extents =
        snapshot.provider.extents := by
  induction ids generalizing snapshot with
  | nil => exact ⟨.refl snapshot, rfl⟩
  | cons id ids ih =>
      obtain ⟨onlyLearns, extents⟩ := ih (snapshot.learnAspect aspect id)
      exact ⟨(OnlyLearns.learnAspect snapshot aspect id).trans onlyLearns,
        extents.trans (snapshot.extents_learnAspect aspect id)⟩

end Snapshot

namespace Session

structure OnlyLearns (before after : Session) : Prop where
  snapshot : before.snapshot.OnlyLearns after.snapshot
  outage : after.outage = before.outage

namespace OnlyLearns

variable {session : Session}

theorem refl (session : Session) : session.OnlyLearns session :=
  ⟨.refl _, rfl⟩

theorem trans {before middle after : Session} (first : before.OnlyLearns middle) (second : middle.OnlyLearns after) :
    before.OnlyLearns after :=
  ⟨first.snapshot.trans second.snapshot, second.outage.trans first.outage⟩

theorem symm {before after : Session} (learns : before.OnlyLearns after) : after.OnlyLearns before :=
  ⟨learns.snapshot.symm, learns.outage.symm⟩

theorem withKernels {kernels : KernelTable} (same : kernels.launches = session.snapshot.kernels.launches) :
    session.OnlyLearns (session.withKernels kernels) :=
  ⟨.withKernels same, rfl⟩

end OnlyLearns

structure Agrees (before after : Session) : Prop where
  onlyLearns : before.OnlyLearns after
  extents : after.provider.extents = before.provider.extents

namespace Agrees

variable {session : Session}

theorem refl (session : Session) : session.Agrees session :=
  ⟨.refl session, rfl⟩

theorem trans {before middle after : Session} (first : before.Agrees middle) (second : middle.Agrees after) :
    before.Agrees after :=
  ⟨first.onlyLearns.trans second.onlyLearns, second.extents.trans first.extents⟩

theorem withKernels {kernels : KernelTable} (same : kernels.keptExtents = session.snapshot.kernels.keptExtents) :
    session.Agrees (session.withKernels kernels) := by
  refine ⟨.withKernels (KernelTable.launches_eq_of_keptExtents_eq same), ?_⟩
  unfold Session.withKernels provider
  cases session.outage with
  | none => exact Provider.extents_congr rfl same
  | some reason => exact Provider.extents_congr rfl same

theorem learn {change : Snapshot → Snapshot} (onlyLearns : session.snapshot.OnlyLearns (change session.snapshot))
    (extents : (change session.snapshot).provider.extents = session.snapshot.provider.extents) :
    session.Agrees (session.learn change) := by
  obtain ⟨snapshot, outage⟩ := session
  cases outage with
  | none => exact ⟨⟨onlyLearns, rfl⟩, extents⟩
  | some reason => exact refl _

theorem learnAspects (session : Session) (ids : List KernelId) (aspect : Aspect) :
    session.Agrees (session.learn (ids.foldl fun snapshot => snapshot.learnAspect aspect)) :=
  learn (Snapshot.foldl_learnAspect ids aspect _).1 (Snapshot.foldl_learnAspect ids aspect _).2

theorem ask (session : Session) (query : Query) : session.Agrees (session.ask query).2 :=
  session_ask session query ▸ learnAspects session _ _

theorem lookup (session : Session) (dev : Ordinal) (grid : GridId) : session.Agrees (session.lookup dev grid).2 := by
  dsimp only [Session.lookup]
  apply learn
  · exact .countLookup _
  · rfl

theorem clusterDim (session : Session) (kernel : Kernel) : session.Agrees (session.clusterDim kernel).2 :=
  session_clusterDim session kernel ▸ learnAspects session _ _

theorem gridStatus (session : Session) (kernel : Kernel) : session.Agrees (session.gridStatus kernel).2 :=
  session_gridStatus session kernel ▸ learnAspects session _ _

theorem put (session : Session) (query : Query) (answer : CoordSet → Answer) :
    session.Agrees (session.put query answer).session := by
  rw [session_put]
  exact ask session query

theorem residentKernels (session : Session) : session.Agrees session.residentKernels.2 := by
  have asked := ask session Focus.residentKernels
  rw [Session.residentKernels]
  split
  · simp_all
  · rename_i set after found
    rw [found] at asked
    apply asked.trans
    exact withKernels (KernelTable.keptExtents_foldl _ (fun _ _ => KernelTable.keptExtents_setLaunched ..) _ _)

theorem looked {α : Type} (answer : α → Answer) {reply : Except LookupFault α × Session}
    (agrees : session.Agrees reply.2) : session.Agrees (Session.looked answer reply).session := by
  rw [session_looked]
  exact agrees

theorem read (session : Session) (reading : Reading) : session.Agrees (session.read reading).session := by
  cases reading with
  | gridQueries | counts | kernels | findGrid => exact refl session
  | sm | warp | breakpointAt =>
      rw [Session.read]
      split <;> exact refl session
  | gridInfo dev grid | gridStatusOf dev grid =>
      have counted := lookup session dev grid
      rw [Session.read]
      split <;> simp_all [refuse]
  | query | firstValidThread | firstTrap | firstException | nearestAtBreakpoint | logicalOf | physicalOf =>
      exact put session _ _
  | residentKernels =>
      have asked := residentKernels session
      rw [Session.read]
      split <;> simp_all [refuse]
  | updateArguments frames => exact withKernels (KernelTable.keptExtents_revise _ _ _ fun _ => rfl)

theorem onKernel (session : Session) (kernel : Kernel) {step : KernelStep} (keeps : step ≠ .invalidate) :
    session.Agrees (session.onKernel kernel step).session := by
  cases step with
  | invalidate => exact (keeps rfl).elim
  | summary | children => exact refl session
  | setLaunched => exact withKernels (KernelTable.keptExtents_setLaunched ..)
  | readArguments | arguments => exact withKernels (KernelTable.keptExtents_setArguments ..)
  | depth =>
      rw [Session.onKernel]
      split
      · rename_i told
        exact withKernels (KernelTable.keptExtents_depth told)
      · exact refl session
  | shouldReport settings =>
      rw [Session.onKernel]
      split
      · rename_i told
        exact withKernels (KernelTable.keptExtents_reports told)
      · exact refl session
  | clusterDim => exact looked _ (clusterDim session kernel)
  | gridStatus | present | describe => exact looked _ (gridStatus session kernel)
  | smMask =>
      rw [Session.onKernel]
      split
      · exact put session _ _
      · exact refl session

end Agrees

namespace OnlyLearns

theorem read (session : Session) (reading : Reading) : session.OnlyLearns (session.read reading).session :=
  (Agrees.read session reading).onlyLearns

theorem onKernel (session : Session) (kernel : Kernel) (step : KernelStep) :
    session.OnlyLearns (session.onKernel kernel step).session := by
  by_cases invalidates : step = .invalidate
  · subst invalidates
    exact withKernels (KernelTable.launches_reviseAt ..)
  · exact (Agrees.onKernel session kernel invalidates).onlyLearns

end OnlyLearns

end Session

end LaneScope
