import Mathlib
import LaneScope.Proofs.Session.Aspects
import LaneScope.Proofs.Session.Noninterference
import LaneScope.Proofs.Session.Residency

/-!
What a query changes.  At each warp that it reads, a query finds the cluster extent of the kernel kept, or fills the
empty cache from the records, or fails and ends there.  Main statement: whatever is answered, the query has filled some
empty caches of kernels that valid warps run, each look-up is counted, and nothing else has changed.
-/

namespace LaneScope

namespace Snapshot

variable {snapshot : Snapshot} {kernel : Kernel}

def filled (snapshot : Snapshot) (ids : List KernelId) (kernel : Kernel) : Kernel :=
  if kernel.id ∈ ids then
    { kernel with clusterDim := (snapshot.grid (kernel.dev, kernel.grid)).map GridRecord.clusterDim }
  else kernel

theorem launch_filled (snapshot : Snapshot) (ids : List KernelId) (kernel : Kernel) :
    (snapshot.filled ids kernel).launch = kernel.launch := by
  rw [filled]
  split <;> rfl

/-- The snapshot after the cluster extents of the given kernels were looked up and kept, and after so many look-ups more
that found no record. -/
def fill (snapshot : Snapshot) (ids : List KernelId) (misses : Nat) : Snapshot :=
  { snapshot with
    kernels := snapshot.kernels.revise (snapshot.filled ids) (snapshot.launch_filled ids)
    gridQueries := snapshot.gridQueries + ids.length + misses }

/-- Whether the given kernels, each named once, are run by valid warps and have empty caches that the records can
fill. -/
structure Fillable (snapshot : Snapshot) (ids : List KernelId) : Prop where
  nodup : ids.Nodup
  empty : ∀ id ∈ ids, ∃ kernel site, snapshot.HoldsKernel kernel site ∧ kernel.id = id ∧ kernel.clusterDim = none ∧
    (snapshot.grid (kernel.dev, kernel.grid)).isSome = true

theorem filled_nil (snapshot : Snapshot) (kernel : Kernel) : snapshot.filled [] kernel = kernel := by
  simp [filled]

theorem filled_filled (snapshot : Snapshot) (ids others : List KernelId) (kernel : Kernel) :
    snapshot.filled others (snapshot.filled ids kernel) = snapshot.filled (ids ++ others) kernel := by
  by_cases member : kernel.id ∈ ids <;> by_cases otherMember : kernel.id ∈ others <;>
    simp_all [filled, Kernel.id, Kernel.dev, Kernel.grid]

theorem fill_nil (snapshot : Snapshot) (misses : Nat) :
    snapshot.fill [] misses = { snapshot with gridQueries := snapshot.gridQueries + misses } := by
  have table : snapshot.kernels.revise (snapshot.filled []) (snapshot.launch_filled []) = snapshot.kernels :=
    KernelTable.eq_of_kernels_eq (List.map_id'' snapshot.filled_nil _)
  rw [fill, table]
  rfl

theorem fill_fill (snapshot : Snapshot) (ids others : List KernelId) (misses more : Nat) :
    (snapshot.fill ids misses).fill others more = snapshot.fill (ids ++ others) (misses + more) := by
  have kernels : (snapshot.kernels.kernels.map (snapshot.filled ids)).map (snapshot.filled others) =
      snapshot.kernels.kernels.map (snapshot.filled (ids ++ others)) := by
    simp [filled_filled]
  have table : (snapshot.fill ids misses).kernels.revise (snapshot.filled others) (snapshot.launch_filled others) =
      snapshot.kernels.revise (snapshot.filled (ids ++ others)) (snapshot.launch_filled (ids ++ others)) :=
    KernelTable.eq_of_kernels_eq kernels
  have counts : snapshot.gridQueries + ids.length + misses + others.length + more =
      snapshot.gridQueries + (ids ++ others).length + (misses + more) := by
    rw [List.length_append]
    omega
  exact congrArg₂ (fun kernels gridQueries => { snapshot with kernels, gridQueries }) table counts

theorem kernelAt_fill (snapshot : Snapshot) (ids : List KernelId) (misses : Nat) (site : Site) :
    (snapshot.fill ids misses).kernelAt site = (snapshot.kernelAt site).map (snapshot.filled ids) :=
  KernelTable.findGrid_revise _ _ (snapshot.launch_filled ids) ..

theorem Fillable.append {ids others : List KernelId} {misses : Nat} (fillable : snapshot.Fillable ids)
    (rest : (snapshot.fill ids misses).Fillable others) : snapshot.Fillable (ids ++ others) := by
  have later (id : KernelId) (member : id ∈ others) : id ∉ ids ∧ ∃ kernel site, snapshot.HoldsKernel kernel site ∧
      kernel.id = id ∧ kernel.clusterDim = none ∧ (snapshot.grid (kernel.dev, kernel.grid)).isSome = true := by
    obtain ⟨found, site, ⟨inRange, runs, known⟩, rfl, empty, recorded⟩ := rest.empty id member
    rw [kernelAt_fill, Option.map_eq_some_iff] at known
    obtain ⟨kernel, known, rfl⟩ := known
    -- A cache that has been filled before is not empty any more.
    by_cases before : kernel.id ∈ ids
    · simp_all [filled, fill, Kernel.id, Kernel.dev, Kernel.grid]
    · have same : snapshot.filled ids kernel = kernel := if_neg before
      rw [same] at empty recorded ⊢
      exact ⟨before, kernel, site, ⟨inRange, runs, known⟩, rfl, empty, recorded⟩
  refine ⟨List.nodup_append.mpr ⟨fillable.nodup, rest.nodup, ?_⟩, ?_⟩
  · rintro id member other otherMember rfl
    exact (later id otherMember).1 member
  · intro id member
    rcases List.mem_append.mp member with here | there
    · exact fillable.empty id here
    · exact (later id there).2

theorem Fillable.nil (snapshot : Snapshot) : snapshot.Fillable [] :=
  ⟨.nil, by simp⟩

theorem Fillable.singleton {site : Site} {record : GridRecord} (held : snapshot.HoldsKernel kernel site)
    (empty : kernel.clusterDim = none) (recorded : snapshot.grid (kernel.dev, kernel.grid) = some record) :
    snapshot.Fillable [kernel.id] := by
  refine ⟨List.nodup_singleton _, ?_⟩
  intro id member
  obtain rfl := List.mem_singleton.mp member
  exact ⟨kernel, site, held, rfl, empty, by rw [recorded]; rfl⟩

theorem setClusterDim_eq_revise {record : GridRecord} (member : kernel ∈ snapshot.kernels.kernels)
    (recorded : snapshot.grid (kernel.dev, kernel.grid) = some record) :
    snapshot.kernels.setClusterDim kernel.id record.clusterDim =
      snapshot.kernels.revise (snapshot.filled [kernel.id]) (snapshot.launch_filled [kernel.id]) := by
  apply KernelTable.eq_of_kernels_eq
  apply List.map_congr_left
  intro other otherMember
  by_cases same : other.id = kernel.id
  · obtain rfl := KernelTable.eq_of_id_eq otherMember member same
    simp [filled, recorded]
  · simp [filled, same]

/-- Looking up the extent of a kernel keeps it, or is counted only, or is not needed. -/
theorem learnClusterDim_fill {site : Site} (held : snapshot.HoldsKernel kernel site) : ∃ ids, snapshot.Fillable ids ∧
    snapshot.learnClusterDim kernel.id = snapshot.fill ids
      (if kernel.clusterDim = none ∧ snapshot.grid (kernel.dev, kernel.grid) = none then 1 else 0) := by
  have member := List.mem_of_find?_eq_some held.2.2
  have known := KernelTable.find?_eq_some.mpr ⟨member, rfl⟩
  cases kept : kernel.clusterDim with
  | some dim =>
      refine ⟨[], .nil snapshot, ?_⟩
      simp [learnClusterDim, known, kept, fill_nil]
  | none =>
      cases recorded : snapshot.grid (kernel.dev, kernel.grid) with
      | none =>
          refine ⟨[], .nil snapshot, ?_⟩
          simp [learnClusterDim, known, kept, recorded, fill_nil, countLookup]
      | some record =>
          refine ⟨[kernel.id], .singleton held kept recorded, ?_⟩
          simp [learnClusterDim, known, kept, recorded, setClusterDim_eq_revise member recorded, fill, countLookup]

end Snapshot

namespace Query

variable {query : Query} {snapshot : Snapshot} {site : Site}

def missesOf {α : Type} (outcome : Except QueryFault α) : Nat :=
  match outcome with
  | .error (.lookup (.gridNotFound _ _)) => 1
  | _ => 0

theorem missesOf_error {α β : Type} (fault : QueryFault) :
    missesOf (.error fault : Except QueryFault α) = missesOf (.error fault : Except QueryFault β) := by
  cases fault with
  | lookup reason => cases reason <;> rfl
  | partialOrigin | unknownKernel => rfl

theorem missesOf_map {α β : Type} (change : α → β) (outcome : Except QueryFault α) :
    missesOf (outcome.map change) = missesOf outcome := by
  cases outcome with
  | error fault => exact missesOf_error fault
  | ok value => rfl

theorem missesOf_identity {kernel : Kernel} (runs : snapshot.warpValid site = true)
    (known : snapshot.kernelAt site = some kernel) : missesOf (snapshot.provider.identity site) =
      if kernel.clusterDim = none ∧ snapshot.grid (kernel.dev, kernel.grid) = none then 1 else 0 := by
  simp only [Provider.identity, Provider.clusterDim, Snapshot.provider, Snapshot.lookup, runs, known, if_true]
  cases kernel.clusterDim with
  | some dim => simp [missesOf]
  | none => cases snapshot.grid (kernel.dev, kernel.grid) <;> simp [missesOf, Except.map]

theorem consults_fill (inRange : snapshot.hasWarp site = true) : ∃ ids, snapshot.Fillable ids ∧
    (snapshot.consults site).foldl Snapshot.learnClusterDim snapshot =
      snapshot.fill ids (missesOf (snapshot.provider.identity site)) := by
  by_cases valid : snapshot.warpValid site = true
  · cases known : snapshot.kernelAt site with
    | none =>
        refine ⟨[], .nil snapshot, ?_⟩
        simp [Snapshot.consults, Provider.identity, Snapshot.provider, valid, known, missesOf, Snapshot.fill_nil]
    | some kernel =>
        rw [missesOf_identity valid known]
        simp only [Snapshot.consults, valid, known, if_true, Option.toList_some, List.map_cons, List.map_nil,
          List.foldl_cons, List.foldl_nil]
        exact Snapshot.learnClusterDim_fill ⟨inRange, Snapshot.warpValid_iff.mp valid, known⟩
  · refine ⟨[], .nil snapshot, ?_⟩
    simp [Snapshot.consults, Provider.identity, Snapshot.provider, valid, missesOf, Snapshot.fill_nil]

/-- A query asks for what the identity of a warp asks for, and gets no further than that if it is not told. -/
theorem hits_told {provider : Provider} (entered : query.enters provider.snapshot site = true) :
    (query.hits provider site).kernels = provider.snapshot.consults site ∧
      missesOf (query.hits provider site).outcome = missesOf (provider.identity site) := by
  rw [hits, if_pos entered]
  cases provider.identity site with
  | error fault => exact ⟨rfl, missesOf_error fault⟩
  | ok identity =>
      simp only [Consulted.andThen]
      split <;> exact ⟨List.append_nil _, rfl⟩

/-- Of the warp that it reads, a query fills the cache of the kernel if that can be done and is needed. -/
theorem hits_fill (query : Query) (inRange : snapshot.hasWarp site = true) : ∃ ids, snapshot.Fillable ids ∧
    (query.hits snapshot.provider site).kernels.foldl Snapshot.learnClusterDim snapshot =
      snapshot.fill ids (missesOf (query.hits snapshot.provider site).outcome) := by
  by_cases entered : query.enters snapshot site = true
  · have told : query.enters snapshot.provider.snapshot site = true := entered
    rw [(hits_told told).1, (hits_told told).2]
    exact consults_fill inRange
  · refine ⟨[], .nil snapshot, ?_⟩
    simp [hits, Snapshot.provider, entered, Consulted.of, missesOf, Snapshot.fill_nil]

/-- A survey that keeps at once what it looks up, so that it reads each warp in the snapshot that the warps before have
left. -/
def sweep (query : Query) : List Site → List Coords → Snapshot → Except QueryFault (List Coords) × Snapshot
  | [], reported, snapshot => (.ok reported, snapshot)
  | site :: rest, reported, snapshot =>
    if query.passesOver reported site then query.sweep rest reported snapshot
    else
      let visit := query.hits snapshot.provider site
      let after := visit.kernels.foldl Snapshot.learnClusterDim snapshot
      match visit.outcome with
      | .ok hits => query.sweep rest (hits.foldl query.report reported) after
      | .error fault => (.error fault, after)

/-- It makes no difference whether look-ups are kept at once or in the end. -/
theorem sweep_eq_survey (query : Query) (sites : List Site) (reported : List Coords) (snapshot : Snapshot) :
    query.sweep sites reported snapshot = ((query.survey snapshot.provider sites reported).outcome,
      (query.survey snapshot.provider sites reported).kernels.foldl Snapshot.learnClusterDim snapshot) := by
  induction sites generalizing reported snapshot with
  | nil => rfl
  | cons site sites ih =>
      simp only [sweep, survey]
      split
      · exact ih reported snapshot
      · cases read : (query.hits snapshot.provider site).outcome with
        | error fault => simp [Consulted.andThen, read]
        | ok hits =>
            -- What is learnt at this warp changes nothing of what the later ones tell.
            obtain ⟨onlyLearns, extents⟩ :=
              Snapshot.foldl_learnAspect (query.hits snapshot.provider site).kernels .clusterDim snapshot
            rw [← Snapshot.learnClusterDim_eq] at onlyLearns extents
            have same (later : Site) := Provider.hits_of_extents onlyLearns extents query later
            simp only [Consulted.andThen, read, ih, survey_congr (fun later _ => same later), List.foldl_append]

theorem sweep_fill (query : Query) {sites : List Site} (inRange : ∀ site ∈ sites, snapshot.hasWarp site = true)
    (reported : List Coords) : ∃ ids, snapshot.Fillable ids ∧
      (query.sweep sites reported snapshot).2 = snapshot.fill ids (missesOf (query.sweep sites reported snapshot).1) := by
  induction sites generalizing reported snapshot with
  | nil => exact ⟨[], .nil snapshot, (snapshot.fill_nil 0).symm⟩
  | cons site sites ih =>
      rw [List.forall_mem_cons] at inRange
      simp only [sweep]
      split
      · exact ih inRange.2 reported
      · obtain ⟨ids, fillable, here⟩ := query.hits_fill inRange.1
        cases read : (query.hits snapshot.provider site).outcome with
        | error fault =>
            rw [read] at here
            exact ⟨ids, fillable, here⟩
        | ok hits =>
            have after : (query.hits snapshot.provider site).kernels.foldl Snapshot.learnClusterDim snapshot =
                snapshot.fill ids 0 := by
              simpa only [read, missesOf] using here
            have rangedLater : ∀ later ∈ sites, (snapshot.fill ids 0).hasWarp later = true := inRange.2
            obtain ⟨others, rest, later⟩ := ih rangedLater (hits.foldl query.report reported)
            simp only [after]
            -- The later warps find the caches as this one has left them, so that none is filled twice.
            refine ⟨ids ++ others, fillable.append rest, ?_⟩
            rw [later, Snapshot.fill_fill, Nat.zero_add]

/-- A warp that is read has the extent told of the kernel that is asked for. -/
theorem clusterDim_of_reads {provider : Provider} {id : KernelId} (read : query.Reads provider site)
    (asked : id ∈ (query.hits provider site).kernels) : ∃ kernel dim,
      provider.snapshot.kernels.find? id = some kernel ∧ provider.clusterDim kernel = .ok dim := by
  rcases hits_eq_ok.mp read with ⟨shut, -⟩ | ⟨entered, identity, told, -⟩
  · simp [hits, shut, Consulted.of] at asked
  · rw [(hits_told entered).1] at asked
    rcases Provider.identity_eq_ok.mp told with ⟨idle, -⟩ | ⟨runs, kernel, dim, known, kept, -⟩
    · rw [← Snapshot.warpValid_iff] at idle
      simp [Snapshot.consults, idle] at asked
    · simp only [Snapshot.consults, Snapshot.warpValid_iff.mpr runs, known, if_true, Option.toList_some, List.map_cons,
        List.map_nil, List.mem_singleton] at asked
      subst asked
      exact ⟨kernel, dim, KernelTable.find?_eq_some.mpr ⟨List.mem_of_find?_eq_some known, rfl⟩, kept⟩

/-- A query that is answered has the extents told of all kernels that it asks for. -/
theorem clusterDim_of_survey {provider : Provider} {sites : List Site} {reported after : List Coords}
    (surveyed : (query.survey provider sites reported).outcome = .ok after) :
    ∀ id ∈ (query.survey provider sites reported).kernels,
      ∃ kernel dim, provider.snapshot.kernels.find? id = some kernel ∧ provider.clusterDim kernel = .ok dim := by
  induction sites generalizing reported with
  | nil => simp [survey, Consulted.of]
  | cons site sites ih =>
      cases passed : query.passesOver reported site with
      | true =>
          simp only [survey, passed, if_true] at surveyed ⊢
          exact ih surveyed
      | false =>
          simp only [survey, passed, Bool.false_eq_true, if_false] at surveyed ⊢
          obtain ⟨found, read, rest⟩ := Consulted.andThen_outcome_eq_ok.mp surveyed
          simp only [Consulted.andThen, read, List.forall_mem_append]
          exact ⟨fun id asked => clusterDim_of_reads (reads_of_ok read) asked, ih rest⟩

end Query

theorem Provider.clusterDim_of_evaluate {provider : Provider} {query : Query} {set : CoordSet}
    (answered : (provider.evaluate query).outcome = .ok set) : ∀ id ∈ (provider.evaluate query).kernels,
      ∃ kernel dim, provider.snapshot.kernels.find? id = some kernel ∧ provider.clusterDim kernel = .ok dim := by
  obtain ⟨answerable, reported, surveyed, -⟩ := evaluate_eq_ok.mp answered
  rw [evaluate, if_pos answerable, Query.walk_eq_survey]
  exact Query.clusterDim_of_survey surveyed

namespace Snapshot

variable {snapshot : Snapshot} {query : Query}

theorem foldl_learnClusterDim_of_kept {ids : List KernelId}
    (kept : ∀ id ∈ ids, ∃ kernel dim, snapshot.kernels.find? id = some kernel ∧ kernel.clusterDim = some dim) :
    ids.foldl learnClusterDim snapshot = snapshot := by
  induction ids with
  | nil => rfl
  | cons id ids ih =>
      rw [List.forall_mem_cons] at kept
      obtain ⟨⟨kernel, dim, known, here⟩, later⟩ := kept
      have unchanged : snapshot.learnClusterDim id = snapshot := by simp [learnClusterDim, known, here]
      rw [List.foldl_cons, unchanged]
      exact ih later

/-- What was told once is kept, so that it is not looked up again. -/
theorem foldl_learnClusterDim_twice (snapshot : Snapshot) {ids : List KernelId} (told : ∀ id ∈ ids, ∃ kernel dim,
      snapshot.kernels.find? id = some kernel ∧ snapshot.provider.clusterDim kernel = .ok dim) :
    ids.foldl learnClusterDim (ids.foldl learnClusterDim snapshot) = ids.foldl learnClusterDim snapshot := by
  apply foldl_learnClusterDim_of_kept
  intro id member
  obtain ⟨kernel, dim, known, here⟩ := told id member
  rw [learnClusterDim_eq]
  refine ⟨_, dim, find?_foldl_learnAspect known .clusterDim ids, ?_⟩
  cases kept : kernel.clusterDim with
  | some held => simpa [Kernel.learn, Provider.clusterDim, kept] using here
  | none =>
      simp only [Provider.clusterDim, kept, provider, lookup] at here
      cases recorded : snapshot.grid (kernel.dev, kernel.grid) with
      | none => simp [recorded, Except.map] at here
      | some record => simpa [Kernel.learn, GridRecord.get, kept, member, recorded, Except.map] using here

theorem ask_session (snapshot : Snapshot) (query : Query) : snapshot.session.ask query =
    ((snapshot.provider.evaluate query).outcome,
      ((snapshot.provider.evaluate query).kernels.foldl learnClusterDim snapshot).session) :=
  rfl

theorem evaluate_eq_sweep (snapshot : Snapshot) (answerable : query.isAnswerable = true) :
    ((snapshot.provider.evaluate query).kernels.foldl learnClusterDim snapshot =
      (query.sweep snapshot.sites [] snapshot).2) ∧
      Query.missesOf (snapshot.provider.evaluate query).outcome =
        Query.missesOf (query.sweep snapshot.sites [] snapshot).1 := by
  rw [Query.sweep_eq_survey, Provider.evaluate, if_pos answerable, Query.walk_eq_survey]
  exact ⟨rfl, Query.missesOf_map ..⟩

theorem ask_fill (snapshot : Snapshot) (query : Query) : ∃ ids, snapshot.Fillable ids ∧
    (snapshot.session.ask query).2 = (snapshot.fill ids (Query.missesOf (snapshot.session.ask query).1)).session := by
  rw [ask_session]
  by_cases answerable : query.isAnswerable = true
  · obtain ⟨after, misses⟩ := snapshot.evaluate_eq_sweep answerable
    obtain ⟨ids, fillable, filled⟩ := Query.sweep_fill query (fun site => mem_sites.mp) []
    refine ⟨ids, fillable, ?_⟩
    rw [after, misses, filled]
  · refine ⟨[], .nil snapshot, ?_⟩
    rw [Provider.evaluate, if_neg answerable, fill_nil]
    rfl

theorem ask_of_partialOrigin {addressing : Addressing} {granularity : Granularity}
    (refused : (snapshot.session.ask query).1 = .error (.partialOrigin addressing granularity)) :
    (snapshot.session.ask query).2 = snapshot.session := by
  rw [ask_session] at refused ⊢
  rcases Provider.evaluate_eq_error refused with ⟨unanswerable, -⟩ | ⟨site, -, untold⟩
  · rw [Provider.evaluate, if_neg (Bool.eq_false_iff.mp unanswerable)]
    rfl
  · rcases (Provider.identity_eq_error.mp untold).2 with ⟨-, other⟩ | ⟨_, _, -, -, other⟩ <;> contradiction

theorem ask_again {set : CoordSet} (answered : (snapshot.session.ask query).1 = .ok set) :
    (snapshot.session.ask query).2.ask query = (.ok set, (snapshot.session.ask query).2) := by
  have evaluated : (snapshot.provider.evaluate query).outcome = .ok set := answered
  have same : ((snapshot.provider.evaluate query).kernels.foldl learnClusterDim snapshot).provider.evaluate query =
      snapshot.provider.evaluate query :=
    (Session.Agrees.ask snapshot.session query).evaluate_eq query
  rw [ask_session, ask_session, same, evaluated,
    snapshot.foldl_learnClusterDim_twice (Provider.clusterDim_of_evaluate evaluated)]

structure OnlyFills (snapshot : Snapshot) (query : Query) : Prop where
  fills : ∃ ids, snapshot.Fillable ids ∧ (snapshot.session.ask query).2 =
    (snapshot.fill ids (Query.missesOf (snapshot.session.ask query).1)).session
  rejected : ∀ addressing granularity, (snapshot.session.ask query).1 = .error (.partialOrigin addressing granularity) →
    (snapshot.session.ask query).2 = snapshot.session
  again : ∀ set, (snapshot.session.ask query).1 = .ok set →
    (snapshot.session.ask query).2.ask query = (.ok set, (snapshot.session.ask query).2)

theorem onlyFills (snapshot : Snapshot) (query : Query) : snapshot.OnlyFills query where
  fills := snapshot.ask_fill query
  rejected _ _ refused := ask_of_partialOrigin refused
  again _ answered := ask_again answered

end Snapshot

end LaneScope
