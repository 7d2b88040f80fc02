import LaneScope.Proofs.Session.Course
import LaneScope.Proofs.Session.Tenure

/-!
Look-ups in the records.  A step looks an aspect of a kernel up where it asks for it and nothing is kept of it, once if
that succeeds, and each look-up that can reach the records is counted.
-/

namespace LaneScope

inductive Lookup where
  | grid
  | aspect (kernel : KernelId) (aspect : Aspect)
deriving DecidableEq

namespace Snapshot

def lacks (snapshot : Snapshot) (id : KernelId) (aspect : Aspect) : Bool :=
  (snapshot.kernels.find? id).any fun kernel => (kernel.kept aspect).isNone

def lookups (snapshot : Snapshot) (aspect : Aspect) : List KernelId → List Lookup
  | [] => []
  | id :: rest =>
    (if snapshot.lacks id aspect then [.aspect id aspect] else []) ++ (snapshot.learnAspect aspect id).lookups aspect rest

end Snapshot

namespace Session

def lookups (session : Session) : Step → List Lookup
  | .read (.gridInfo _ _) | .read (.gridStatusOf _ _) => [.grid]
  | step => session.snapshot.lookups (session.inquires step).1 (session.inquires step).2

def fetched (session : Session) (launch : Launch) (aspect : Aspect) (step : Step) : List aspect.Value :=
  (session.lookups step).filterMap fun lookup =>
    if lookup = .aspect launch.kernel aspect then (session.provider.provided launch aspect).toOption else none

def Counts (session : Session) (step : Step) (after : Session) : Prop :=
  after.snapshot.gridQueries =
    session.snapshot.gridQueries + if session.outage = none then (session.lookups step).length else 0

end Session

namespace Snapshot

variable {snapshot : Snapshot} {id : KernelId} {kernel : Kernel} {aspect : Aspect}

theorem gridQueries_learnAspect (snapshot : Snapshot) (aspect : Aspect) (id : KernelId) :
    (snapshot.learnAspect aspect id).gridQueries =
      snapshot.gridQueries + if snapshot.lacks id aspect then 1 else 0 := by
  rw [learnAspect, lacks]
  cases snapshot.kernels.find? id with
  | none => rfl
  | some kernel =>
      cases kept : kernel.kept aspect with
      | some value => simp [kept]
      | none => cases recorded : snapshot.grid (kernel.dev, kernel.grid) <;> simp [kept, recorded, countLookup]

theorem gridQueries_foldl (snapshot : Snapshot) (aspect : Aspect) (ids : List KernelId) :
    (ids.foldl (fun snapshot => snapshot.learnAspect aspect) snapshot).gridQueries =
      snapshot.gridQueries + (snapshot.lookups aspect ids).length := by
  induction ids generalizing snapshot with
  | nil => rfl
  | cons id ids ih =>
      rw [List.foldl_cons, ih, gridQueries_learnAspect, lookups, List.length_append, ← Nat.add_assoc]
      split <;> rfl

theorem lookups_of_unregistered (unknown : snapshot.kernels.find? id = none) (aspect : Aspect) :
    snapshot.lookups aspect [id] = [] := by
  simp [lookups, lacks, unknown]

theorem mem_lookups (known : snapshot.kernels.find? id = some kernel) (asked : Aspect) (ids : List KernelId) :
    .aspect id aspect ∈ snapshot.lookups asked ids ↔ asked = aspect ∧ id ∈ ids ∧ kernel.kept asked = none := by
  induction ids generalizing snapshot kernel with
  | nil => simp [lookups]
  | cons first rest ih =>
      rw [lookups, List.mem_append, ih (find?_learnAspect known asked first), Kernel.kept_learn, List.mem_cons]
      by_cases same : first = id
      · subst same
        cases kept : kernel.kept asked with
        | none => simp +contextual [lacks, known, kept, eq_comm]
        | some value => simp [lacks, known, kept]
      · have apart : id ≠ first := Ne.symm same
        have unlisted : .aspect id aspect ∉ if snapshot.lacks first asked then [Lookup.aspect first asked] else [] := by
          split <;> simp [apart]
        simp [same, apart, unlisted]

/-- Where the records tell of a grid, one look-up is enough. -/
theorem count_lookups_le (known : snapshot.kernels.find? id = some kernel)
    (recorded : (snapshot.grid (kernel.dev, kernel.grid)).isSome = true) (ids : List KernelId) :
    (snapshot.lookups aspect ids).count (.aspect id aspect) ≤ 1 := by
  induction ids generalizing snapshot kernel with
  | nil => simp [lookups]
  | cons first rest ih =>
      have learnt := find?_learnAspect known aspect first
      rw [lookups, List.count_append]
      by_cases same : first = id
      · subst same
        -- The first look-up keeps what it gets, so the rest of the list makes no other.
        have settled : .aspect first aspect ∉ (snapshot.learnAspect aspect first).lookups aspect rest := by
          rw [mem_lookups learnt, Kernel.kept_learn]
          obtain ⟨record, recorded⟩ := Option.isSome_iff_exists.mp recorded
          simp [recorded]
        rw [List.count_eq_zero.mpr settled]
        split <;> simp
      · have unlisted : .aspect id aspect ∉ if snapshot.lacks first aspect then [Lookup.aspect first aspect] else [] := by
          split <;> simp [Ne.symm same]
        rw [List.count_eq_zero.mpr unlisted, Nat.zero_add]
        apply ih learnt
        rwa [grid_learnAspect, Kernel.dev_learn, Kernel.grid_learn]

theorem gridQueries_populate {worked : Snapshot} {site : Site} {block : Dim3} {first active : BitVec 32}
    (populated : snapshot.populate site id block first active = .ok worked) :
    worked.gridQueries = snapshot.gridQueries := by
  obtain ⟨-, -, -, -, rfl⟩ := populate_eq_ok.mp populated
  rfl

end Snapshot

namespace Session

variable {session : Session}

namespace Counts

variable {step : Step} {after : Session}

theorem idle (quiet : session.lookups step = []) (same : after.snapshot.gridQueries = session.snapshot.gridQueries) :
    session.Counts step after := by
  rw [Counts, quiet, same, List.length_nil, ite_self, Nat.add_zero]

theorem learn {aspect : Aspect} {ids : List KernelId} (lookups : session.lookups step = session.snapshot.lookups aspect ids) :
    session.Counts step (session.learn (ids.foldl fun snapshot => snapshot.learnAspect aspect)) := by
  rw [Counts, lookups, Session.learn]
  cases session.outage with
  | none => exact session.snapshot.gridQueries_foldl aspect ids
  | some reason => rfl

theorem edit (session : Session) (edit : Edit) : session.Counts (.edit edit) (session.edit edit).session := by
  refine idle rfl ?_
  cases edit with
  | launch | setGridStatus | forgetGrid | setClock | invalidate | setOutage => rfl
  | setBreakpoint | setSm | setWarp | setLane =>
      rw [Session.edit, change]
      split <;> rfl
  | addFunction start size name =>
      rw [Session.edit, Snapshot.addFunction]
      cases session.snapshot.functions.insert start size name <;> rfl
  | exitKernel exited =>
      rw [Session.edit]
      split
      · rfl
      · split <;> rfl
  | populate site id block first active =>
      rw [Session.edit]
      cases populated : session.snapshot.populate site id block first active with
      | error fault => cases fault <;> rfl
      | ok snapshot => exact Snapshot.gridQueries_populate populated

theorem read (session : Session) (reading : Reading) : session.Counts (.read reading) (session.read reading).session := by
  cases reading with
  | gridQueries | counts | kernels | findGrid | updateArguments => exact idle rfl rfl
  | sm | warp | breakpointAt =>
      rw [Session.read]
      split <;> exact idle rfl rfl
  | gridInfo dev grid | gridStatusOf dev grid =>
      rw [Counts, Session.read, lookup, Session.learn]
      cases session.outage with
      | none => cases session.provider.lookup dev grid <;> rfl
      | some reason => cases session.provider.lookup dev grid <;> rfl
  | query | firstValidThread | firstTrap | firstException | nearestAtBreakpoint | logicalOf | physicalOf =>
      rw [Session.read, session_put, session_ask]
      exact learn rfl
  | residentKernels =>
      have asked : session.Counts (.read .residentKernels) (session.ask Focus.residentKernels).2 := by
        rw [session_ask]
        exact learn rfl
      rw [Session.read, residentKernels]
      cases answered : session.ask Focus.residentKernels with
      | mk outcome after =>
          rw [answered] at asked
          cases outcome <;> exact asked

theorem onKernel {kernel : Kernel} (known : session.snapshot.kernels.find? kernel.id = some kernel) (step : KernelStep) :
    session.Counts (.onKernel kernel.id step) (session.onKernel kernel step).session := by
  cases step with
  | summary | setLaunched | children | invalidate | readArguments | arguments => exact idle rfl rfl
  | depth | shouldReport =>
      rw [Session.onKernel]
      split <;> exact idle rfl rfl
  | clusterDim =>
      rw [Session.onKernel, session_looked, session_clusterDim]
      exact learn rfl
  | gridStatus | present | describe =>
      rw [Session.onKernel, session_looked]
      change session.Counts _ (session.gridStatus kernel).2
      rw [session_gridStatus]
      exact learn rfl
  | smMask =>
      rw [Session.onKernel]
      split
      · rw [session_put, session_ask]
        refine learn ?_
        rw [lookups, inquires_smMask known]
        all_goals simp
      · rename_i absent
        refine idle ?_ rfl
        rw [lookups, inquires_smMask_of_absent known (Bool.eq_false_iff.mpr absent)]
        · rfl
        all_goals simp

end Counts

theorem counts_perform (session : Session) (step : Step) : session.Counts step (session.perform step).session := by
  cases step with
  | edit edit => exact .edit session edit
  | read reading => exact .read session reading
  | onKernel id step =>
      rw [perform]
      split
      · rename_i unknown
        refine .idle ?_ rfl
        cases step with
        | clusterDim | gridStatus | present | describe => exact Snapshot.lookups_of_unregistered unknown _
        | smMask => simp [lookups, inquires, consults, poses, unknown, Snapshot.lookups]
        | _ => rfl
      · rename_i kernel found
        obtain ⟨-, rfl⟩ := KernelTable.find?_eq_some.mp found
        exact .onKernel found step

section

variable {kernel : Kernel} {launch : Launch} {aspect : Aspect} {step : Step}

theorem lookups_cases (session : Session) (step : Step) :
    session.lookups step = session.snapshot.lookups (session.inquires step).1 (session.inquires step).2 ∨
      session.lookups step = [.grid] ∧ (session.inquires step).2 = [] := by
  cases step with
  | edit | onKernel => exact .inl rfl
  | read reading =>
      cases reading with
      | gridInfo | gridStatusOf => exact .inr ⟨rfl, rfl⟩
      | _ => exact .inl rfl

theorem mem_lookups (known : session.snapshot.kernels.find? kernel.id = some kernel) (step : Step) :
    .aspect kernel.id aspect ∈ session.lookups step ↔
      session.asks kernel.id aspect step = true ∧ kernel.kept aspect = none := by
  rcases session.lookups_cases step with lookups | ⟨lookups, idle⟩
  · rw [lookups, Snapshot.mem_lookups known, asks, Bool.and_eq_true, beq_iff_eq, List.contains_iff_mem, and_assoc]
    apply and_congr_right
    rintro rfl
    rfl
  · simp [lookups, asks, idle]

theorem count_lookups_le (known : session.snapshot.kernels.find? kernel.id = some kernel)
    (recorded : (session.snapshot.grid (kernel.dev, kernel.grid)).isSome = true) (step : Step) :
    (session.lookups step).count (.aspect kernel.id aspect) ≤ 1 := by
  rcases session.lookups_cases step with lookups | ⟨lookups, -⟩
  · rw [lookups]
    by_cases same : (session.inquires step).1 = aspect
    · rw [same]
      exact Snapshot.count_lookups_le known recorded _
    · have unlisted : .aspect kernel.id aspect ∉
          session.snapshot.lookups (session.inquires step).1 (session.inquires step).2 := by
        rw [Snapshot.mem_lookups known]
        exact fun listed => same listed.1
      rw [List.count_eq_zero.mpr unlisted]
      exact Nat.zero_le 1
  · simp [lookups]

theorem fetched_eq (session : Session) (launch : Launch) (aspect : Aspect) (step : Step) :
    session.fetched launch aspect step = match (session.provider.provided launch aspect).toOption with
      | none => []
      | some value => List.replicate ((session.lookups step).count (.aspect launch.kernel aspect)) value := by
  rw [fetched]
  cases (session.provider.provided launch aspect).toOption with
  | none => simp
  | some value =>
      induction session.lookups step with
      | nil => rfl
      | cons lookup lookups ih =>
          by_cases same : lookup = .aspect launch.kernel aspect
          · simp [same, ih, List.replicate_succ]
          · simp [same, ih]

theorem length_fetched_le (known : session.snapshot.kernels.find? kernel.id = some kernel) (step : Step) :
    (session.fetched kernel.launch aspect step).length ≤ 1 := by
  rw [fetched_eq]
  cases provided : (session.provider.provided kernel.launch aspect).toOption with
  | none => exact Nat.zero_le 1
  | some value =>
      have recorded : (session.snapshot.grid (kernel.dev, kernel.grid)).isSome = true := by
        rw [toOption_provided] at provided
        split at provided
        · obtain ⟨record, recorded, -⟩ := Option.map_eq_some_iff.mp provided
          exact Option.isSome_iff_exists.mpr ⟨record, recorded⟩
        · contradiction
      rw [List.length_replicate]
      exact count_lookups_le known recorded step

theorem head?_fetched (known : session.snapshot.kernels.find? kernel.id = some kernel) (step : Step) :
    (session.fetched kernel.launch aspect step).head? =
      if session.asks kernel.id aspect step = true ∧ kernel.kept aspect = none then
        (session.provider.provided kernel.launch aspect).toOption
      else none := by
  rw [fetched_eq]
  simp only [← mem_lookups known step, ← List.count_pos_iff]
  cases (session.provider.provided kernel.launch aspect).toOption with
  | none => exact (ite_self _).symm
  | some value =>
      simp only [List.head?_replicate, Nat.pos_iff_ne_zero, ite_not]
      rfl

theorem Tends.kept_fetched {kernel' : Kernel} (tends : session.Tends step kernel kernel')
    (known : session.snapshot.kernels.find? kernel.id = some kernel) (aspect : Aspect) :
    kernel'.kept aspect = if step.drops kernel.id then none
      else (kernel.kept aspect).or (session.fetched kernel.launch aspect step).head? := by
  rw [tends.kept, head?_fetched known]
  cases kernel.kept aspect <;> simp

theorem fetched_of_kept {value : aspect.Value} (known : session.snapshot.kernels.find? kernel.id = some kernel)
    (kept : kernel.kept aspect = some value) (step : Step) : session.fetched kernel.launch aspect step = [] := by
  rw [← List.head?_eq_none_iff, head?_fetched known, kept]
  simp

end

end Session

end LaneScope
