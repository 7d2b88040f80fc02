import Mathlib.Data.List.Basic
import LaneScope.Proofs.Query.Listing

/-!
Faults of queries.  A query that cannot be answered has wildcards to measure from, or has met a valid warp whose
identity cannot be told.  Queries that read the same of every warp have the same answer.
-/

namespace LaneScope

variable {query : Query} {provider : Provider} {snapshot : Snapshot} {site : Site} {fault : QueryFault}

theorem Consulted.andThen_outcome_eq_error {α β : Type} {first : Consulted α} {next : α → Consulted β} :
    (first.andThen next).outcome = .error fault ↔
      first.outcome = .error fault ∨ ∃ middle, first.outcome = .ok middle ∧ (next middle).outcome = .error fault := by
  obtain ⟨kernels, outcome⟩ := first
  cases outcome <;> simp [andThen]

namespace Provider

theorem identity_eq_error : provider.identity site = .error fault ↔ provider.snapshot.warpValid site = true ∧
    ((provider.snapshot.kernelAt site = none ∧ fault = .unknownKernel site) ∨
      ∃ kernel reason, provider.snapshot.kernelAt site = some kernel ∧ provider.clusterDim kernel = .error reason ∧
        fault = .lookup reason) := by
  rw [identity]
  cases provider.snapshot.warpValid site with
  | false => simp
  | true =>
      cases known : provider.snapshot.kernelAt site with
      | none => simp [eq_comm]
      | some kernel =>
          cases told : provider.clusterDim kernel with
          | error reason => simp [told, eq_comm]
          | ok clusterDim => simp [told]

theorem clusterDim_eq_error {kernel : Kernel} {reason : LookupFault}
    (refused : snapshot.provider.clusterDim kernel = .error reason) : kernel.clusterDim = none ∧
      snapshot.grid (kernel.dev, kernel.grid) = none ∧ reason = .gridNotFound kernel.dev kernel.grid := by
  rw [clusterDim] at refused
  split at refused
  · simp at refused
  · rename_i dropped
    simp only [Snapshot.provider, Snapshot.lookup] at refused
    split at refused
    · simp [Except.map] at refused
    · rename_i absent
      exact ⟨dropped, absent, (Except.error.inj refused).symm⟩

end Provider

namespace Query

theorem hits_eq_error : (query.hits provider site).outcome = .error fault ↔
    query.enters provider.snapshot site = true ∧ provider.identity site = .error fault := by
  rw [hits]
  cases query.enters provider.snapshot site with
  | false => simp [Consulted.of]
  | true =>
      simp only [if_true, Consulted.andThen_outcome_eq_error, true_and, or_iff_left_iff_imp, forall_exists_index,
        and_imp]
      intro identity told refused
      split at refused <;> simp [Consulted.of] at refused

theorem survey_eq_error {sites : List Site} {reported : List Coords}
    (refused : (query.survey provider sites reported).outcome = .error fault) :
    ∃ site ∈ sites, (query.hits provider site).outcome = .error fault := by
  induction sites generalizing reported with
  | nil => simp [survey, Consulted.of] at refused
  | cons site sites ih =>
      simp only [survey] at refused
      split at refused
      · obtain ⟨later, member, met⟩ := ih refused
        exact ⟨later, List.mem_cons_of_mem _ member, met⟩
      · rcases Consulted.andThen_outcome_eq_error.mp refused with here | ⟨found, -, rest⟩
        · exact ⟨site, List.mem_cons_self, here⟩
        · obtain ⟨later, member, met⟩ := ih rest
          exact ⟨later, List.mem_cons_of_mem _ member, met⟩

/-- A survey that enters a single warp fails where that warp does. -/
theorem survey_eq_error_of_enters {sites : List Site}
    (only : ∀ other ∈ sites, query.enters provider.snapshot other = true → other = site) (member : site ∈ sites)
    (met : (query.hits provider site).outcome = .error fault) :
    (query.survey provider sites []).outcome = .error fault := by
  induction sites with
  | nil => simp at member
  | cons first sites ih =>
      rw [List.forall_mem_cons] at only
      simp only [survey, passesOver_nil, Bool.false_eq_true, if_false, Consulted.andThen_outcome_eq_error]
      by_cases entered : query.enters provider.snapshot first = true
      · rw [only.1 entered]
        exact .inl met
      · have shut : (query.hits provider first).outcome = .ok [] :=
          hits_eq_ok.mpr (.inl ⟨Bool.eq_false_iff.mpr entered, rfl⟩)
        have later : site ∈ sites := by
          rcases List.mem_cons.mp member with rfl | later
          · exact (entered (hits_eq_error.mp met).1).elim
          · exact later
        exact .inr ⟨[], shut, ih only.2 later⟩

theorem survey_congr {provider other : Provider} {sites : List Site}
    (same : ∀ site ∈ sites, query.hits provider site = query.hits other site) (reported : List Coords) :
    query.survey provider sites reported = query.survey other sites reported := by
  induction sites generalizing reported with
  | nil => rfl
  | cons site sites ih =>
      rw [List.forall_mem_cons] at same
      simp only [survey, same.1]
      split
      · exact ih same.2 reported
      · exact Consulted.andThen_congr fun found _ => ih same.2 _

end Query

namespace Provider

theorem evaluate_eq_error (refused : (provider.evaluate query).outcome = .error fault) :
    (query.isAnswerable = false ∧ fault = .partialOrigin query.comparator.addressing query.granularity) ∨
      ∃ site, provider.snapshot.hasWarp site = true ∧ provider.identity site = .error fault := by
  rw [evaluate] at refused
  split at refused
  · cases walked : (query.walk provider).outcome with
    | ok found => simp [walked, Except.map] at refused
    | error reason =>
        simp only [walked, Except.map, Except.error.injEq] at refused
        rw [Query.walk_eq_survey, refused] at walked
        obtain ⟨site, member, met⟩ := Query.survey_eq_error walked
        exact .inr ⟨site, Snapshot.mem_sites.mp member, (Query.hits_eq_error.mp met).2⟩
  · rename_i unanswerable
    exact .inl ⟨Bool.eq_false_iff.mpr unanswerable, (Except.error.inj refused).symm⟩

theorem evaluate_congr {other : Provider} (shape : provider.snapshot.shape = other.snapshot.shape)
    (same : ∀ site, provider.snapshot.hasWarp site = true → query.hits provider site = query.hits other site) :
    provider.evaluate query = other.evaluate query := by
  have sites : provider.snapshot.sites = other.snapshot.sites := by
    unfold Snapshot.sites Snapshot.sitesOnDevice Snapshot.sitesOnSm
    rw [shape]
  have walk : query.walk provider = query.walk other := by
    rw [Query.walk_eq_survey, Query.walk_eq_survey, ← sites]
    exact Query.survey_congr (fun site member => same site (Snapshot.mem_sites.mp member)) []
  simp only [evaluate, walk]

end Provider

end LaneScope
