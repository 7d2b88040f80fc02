import LaneScope.Proofs.Query.CoordSet
import LaneScope.Proofs.Query.Rounds

/-!
Listings.  The listing of a query has all its hits, warp by warp, and ascends in physical order.  A query for single
lanes is answered with its whole listing, and one for coarser units with what reporting it hit by hit leaves over.
-/

namespace LaneScope

theorem Coords.project_of_isSingleLane {granularity : Granularity} (fine : granularity.isSingleLane = true)
    (coords : Coords) : coords.project granularity = coords := by
  cases granularity <;> simp [Granularity.isSingleLane] at fine <;> rfl

namespace Site

def Before (site other : Site) : Prop :=
  site.dev.toNat < other.dev.toNat ∨ site.dev = other.dev ∧
    (site.sm.toNat < other.sm.toNat ∨ site.sm = other.sm ∧ site.wp.toNat < other.wp.toNat)

theorem order_lane_of_before {site other : Site} (before : site.Before other) (ln otherLn : Ordinal) :
    (Physical.lane site.dev site.sm site.wp ln).order (.lane other.dev other.sm other.wp otherLn) = .lt := by
  simp only [Physical.order, Physical.lane, Field.order, Ordering.then_eq_lt, Nat.compare_eq_lt, Nat.compare_eq_eq]
  rcases before with dev | ⟨dev, sm | ⟨sm, wp⟩⟩
  · exact .inl dev
  · exact .inr ⟨by rw [dev], .inl sm⟩
  · exact .inr ⟨by rw [dev], .inr ⟨by rw [sm], .inl wp⟩⟩

theorem order_lane_of_lt (site : Site) {ln otherLn : Ordinal} (less : ln.toNat < otherLn.toNat) :
    (Physical.lane site.dev site.sm site.wp ln).order (.lane site.dev site.sm site.wp otherLn) = .lt := by
  simp [Physical.order, Physical.lane, Field.order, Nat.compare_eq_lt.mpr less]

end Site

namespace Snapshot

variable {snapshot : Snapshot}

theorem mem_sites {site : Site} : site ∈ snapshot.sites ↔ snapshot.hasWarp site = true := by
  simp only [sites, sitesOnDevice, sitesOnSm, List.mem_flatMap, List.mem_map, mem_ordinals, hasWarp, hasSm, hasDevice,
    Bool.and_eq_true, decide_eq_true_eq]
  constructor
  · rintro ⟨dev, devBound, sm, smBound, wp, wpBound, rfl⟩
    exact ⟨⟨devBound, smBound⟩, wpBound⟩
  · rintro ⟨⟨devBound, smBound⟩, wpBound⟩
    exact ⟨site.dev, devBound, site.sm, smBound, site.wp, wpBound, rfl⟩

theorem sites_ascending (snapshot : Snapshot) : snapshot.sites.Pairwise Site.Before := by
  rw [sites, List.pairwise_flatMap]
  constructor
  · intro dev _
    rw [sitesOnDevice, List.pairwise_flatMap]
    constructor
    · intro sm _
      rw [sitesOnSm, List.pairwise_map]
      exact (ordinals_ascending _).imp fun less => .inr ⟨rfl, .inr ⟨rfl, less⟩⟩
    · apply (ordinals_ascending _).imp
      intro sm later less site member other otherMember
      obtain ⟨dev, sm⟩ := unit_of_mem_sitesOnSm member
      obtain ⟨otherDev, otherSm⟩ := unit_of_mem_sitesOnSm otherMember
      exact .inr ⟨dev.trans otherDev.symm, .inl (by rw [sm, otherSm]; exact less)⟩
  · apply (ordinals_ascending _).imp
    intro dev later less site member other otherMember
    rw [Site.Before, dev_of_mem_sitesOnDevice member, dev_of_mem_sitesOnDevice otherMember]
    exact .inl less

end Snapshot

namespace Query

variable {query : Query} {provider : Provider}

def listed (query : Query) (provider : Provider) (site : Site) : List Coords :=
  match (query.hits provider site).outcome with
  | .ok found => found
  | .error _ => []

def listing (query : Query) (provider : Provider) : List Coords :=
  provider.snapshot.sites.flatMap (query.listed provider)

def Reads (query : Query) (provider : Provider) (site : Site) : Prop :=
  (query.hits provider site).outcome = .ok (query.listed provider site)

theorem reads_of_ok {site : Site} {found : List Coords} (read : (query.hits provider site).outcome = .ok found) :
    query.Reads provider site := by
  simp only [Reads, listed, read]

theorem reads_of_mem_listed {site : Site} {hit : Coords} (member : hit ∈ query.listed provider site) :
    query.Reads provider site := by
  cases outcome : (query.hits provider site).outcome with
  | error fault => simp [listed, outcome] at member
  | ok found => exact reads_of_ok outcome

theorem listed_congr {other : Query} (hits : query.hits provider = other.hits provider) :
    query.listed provider = other.listed provider := by
  funext site
  simp only [listed, hits]

theorem listing_congr {other : Query} (hits : query.hits provider = other.hits provider) :
    query.listing provider = other.listing provider := by
  rw [listing, listing, listed_congr hits]

theorem reads_congr {other : Query} (hits : query.hits provider = other.hits provider) {site : Site}
    (read : query.Reads provider site) : other.Reads provider site := by
  rwa [Reads, ← hits, ← listed_congr hits]

theorem reads_of_identity {site : Site} {identity : Logical} (told : provider.identity site = .ok identity) :
    query.Reads provider site := by
  cases entered : query.enters provider.snapshot site with
  | false => exact reads_of_ok (hits_eq_ok.mpr (.inl ⟨entered, rfl⟩))
  | true => exact reads_of_ok (hits_eq_ok.mpr (.inr ⟨entered, identity, told, rfl⟩))

theorem mem_listed {site : Site} {hit : Coords} : hit ∈ query.listed provider site ↔
    query.enters provider.snapshot site = true ∧ ∃ identity, provider.identity site = .ok identity ∧
      query.filter.logical.acceptsWarp identity = true ∧ ∃ ln ∈ ordinals provider.snapshot.shape.lanes,
        query.hit? provider.snapshot site identity ln = some hit := by
  constructor
  · intro member
    exact (mem_hits (reads_of_mem_listed member)).mp member
  · rintro ⟨entered, identity, told, accepted, found⟩
    exact (mem_hits (reads_of_identity told)).mpr ⟨entered, identity, told, accepted, found⟩

theorem physical_of_hit {snapshot : Snapshot} {site : Site} {identity : Logical} {ln : Ordinal} {hit : Coords}
    (found : query.hit? snapshot site identity ln = some hit) :
    hit.physical = .lane site.dev site.sm site.wp ln := by
  simp only [hit?, Option.ite_none_right_eq_some, Option.some.injEq] at found
  rw [← found.2]

theorem physical_of_mem_listed {site : Site} {hit : Coords} (member : hit ∈ query.listed provider site) :
    ∃ ln, hit.physical = .lane site.dev site.sm site.wp ln := by
  obtain ⟨-, identity, -, -, ln, -, found⟩ := mem_listed.mp member
  exact ⟨ln, physical_of_hit found⟩

theorem listed_ascending (query : Query) (provider : Provider) (site : Site) :
    (query.listed provider site).Pairwise fun left right => left.physical.order right.physical = .lt := by
  cases outcome : (query.hits provider site).outcome with
  | error fault => simp [listed, outcome]
  | ok found =>
      simp only [listed, outcome]
      rcases hits_eq_ok.mp outcome with ⟨-, rfl⟩ | ⟨-, identity, -, rfl⟩
      · exact .nil
      · split
        · rw [List.pairwise_filterMap]
          apply (ordinals_ascending _).imp
          intro ln later less left leftFound right rightFound
          rw [physical_of_hit leftFound, physical_of_hit rightFound]
          exact Site.order_lane_of_lt site less
        · exact .nil

theorem listing_ascending (query : Query) (provider : Provider) :
    (query.listing provider).Pairwise fun left right => left.physical.order right.physical = .lt := by
  rw [listing, List.pairwise_flatMap]
  constructor
  · intro site _
    exact query.listed_ascending provider site
  · apply (Snapshot.sites_ascending _).imp
    intro site other before left leftMember right rightMember
    obtain ⟨ln, leftPlace⟩ := physical_of_mem_listed leftMember
    obtain ⟨otherLn, rightPlace⟩ := physical_of_mem_listed rightMember
    rw [leftPlace, rightPlace]
    exact Site.order_lane_of_before before ln otherLn

theorem listing_physical_nodup (query : Query) (provider : Provider) :
    ((query.listing provider).map Coords.physical).Nodup := by
  rw [List.nodup_iff_pairwise_ne, List.pairwise_map]
  apply (query.listing_ascending provider).imp
  intro left right less same
  rw [same, Physical.order_self] at less
  contradiction

theorem listing_nodup (query : Query) (provider : Provider) : (query.listing provider).Nodup :=
  List.Pairwise.of_map Coords.physical (fun _ _ => mt (congrArg Coords.physical)) (query.listing_physical_nodup provider)

theorem toList_collect_listing (query : Query) (provider : Provider) :
    (CoordSet.collect { addressing := .physical } (query.listing provider).reverse).coords.toList =
      query.listing provider := by
  apply CoordSet.toList_collect_of_ascending
  · apply (query.listing_ascending provider).imp
    intro left right less
    simp only [Comparator.compare, Comparator.comparePhysical, less, Ordering.lt_then]
  · intro coords
    exact List.mem_reverse

theorem foldl_report_of_passesOver {site : Site} {reported : List Coords}
    (passed : query.passesOver reported site = true) :
    (query.listed provider site).foldl query.report reported = reported := by
  apply foldl_report_of_isAnswered
  intro hit member
  simp only [passesOver, Bool.or_eq_true, Bool.and_eq_true] at passed
  rcases passed with sated | ⟨placed, among⟩
  · simp [isAnswered, sated]
  · have coarse := Granularity.not_isSingleLane_of_isPlaced placed
    obtain ⟨-, identity, -, -, ln, -, hitEq⟩ := mem_listed.mp member
    have unitEq := (unitOf_hit hitEq coarse).trans (unitOf_identified placed site identity)
    simp only [isAnswered, isAmong, coarse, unitEq, Bool.not_false, Bool.true_and, Bool.or_eq_true]
    exact .inr among

theorem survey_of_reads {sites : List Site} {reported : List Coords}
    (read : ∀ site ∈ sites, query.Reads provider site) :
    (query.survey provider sites reported).outcome =
      .ok ((sites.flatMap (query.listed provider)).foldl query.report reported) := by
  induction sites generalizing reported with
  | nil => rfl
  | cons site sites ih =>
      rw [List.forall_mem_cons] at read
      simp only [survey, List.flatMap_cons, List.foldl_append]
      split
      · rename_i passed
        rw [ih read.2, foldl_report_of_passesOver passed]
      · rw [Consulted.andThen_outcome_eq_ok]
        exact ⟨query.listed provider site, read.1, ih read.2⟩

/-- Whatever a survey has not read adds nothing: its warps have no hits, or answered ones only. -/
theorem eq_foldl_of_survey {sites : List Site} {reported after : List Coords}
    (surveyed : (query.survey provider sites reported).outcome = .ok after) :
    after = (sites.flatMap (query.listed provider)).foldl query.report reported := by
  induction sites generalizing reported with
  | nil =>
      rw [survey, Consulted.of_outcome_eq_ok] at surveyed
      exact surveyed
  | cons site sites ih =>
      simp only [survey] at surveyed
      rw [List.flatMap_cons, List.foldl_append]
      split at surveyed
      · rename_i passed
        rw [foldl_report_of_passesOver passed]
        exact ih surveyed
      · obtain ⟨found, read, rest⟩ := Consulted.andThen_outcome_eq_ok.mp surveyed
        have here : query.listed provider site = found := by simp only [listed, read]
        rw [here]
        exact ih rest

/-- A survey reads every warp, but for those of a unit that it has reported before. -/
theorem reads_or_isAmong_of_survey {sites : List Site} {reported after : List Coords}
    (many : query.select.single = false) (surveyed : (query.survey provider sites reported).outcome = .ok after) :
    ∀ site ∈ sites, query.Reads provider site ∨
      query.granularity.isPlaced = true ∧ query.isAmong after site.coords = true := by
  induction sites generalizing reported with
  | nil => simp
  | cons site sites ih =>
      rw [survey] at surveyed
      split at surveyed
      · rename_i passed
        simp only [passesOver, isSated, many, Bool.false_and, Bool.false_or, Bool.and_eq_true] at passed
        obtain ⟨placed, among⟩ := passed
        obtain ⟨added, rfl, -⟩ := survey_extends placed surveyed
        have still : query.isAmong (added ++ reported) site.coords = true := by
          rw [isAmong, List.any_append, Bool.or_eq_true]
          exact .inr among
        exact List.forall_mem_cons.mpr ⟨.inr ⟨placed, still⟩, ih surveyed⟩
      · obtain ⟨found, read, rest⟩ := Consulted.andThen_outcome_eq_ok.mp surveyed
        exact List.forall_mem_cons.mpr ⟨.inl (reads_of_ok read), ih rest⟩

/-- A survey of units that are not told by their place passes over no warp, so it meets every fault. -/
theorem reads_of_survey {sites : List Site} {reported after : List Coords}
    (unplaced : query.granularity.isPlaced = false) (many : query.select.single = false)
    (surveyed : (query.survey provider sites reported).outcome = .ok after) :
    ∀ site ∈ sites, query.Reads provider site := by
  intro site member
  rcases reads_or_isAmong_of_survey many surveyed site member with read | ⟨placed, -⟩
  · exact read
  · rw [unplaced] at placed
    contradiction

theorem foldl_report_of_isSingleLane (fine : query.granularity.isSingleLane = true)
    (many : query.select.single = false) (hits reported : List Coords) :
    hits.foldl query.report reported = hits.reverse ++ reported := by
  induction hits generalizing reported with
  | nil => rfl
  | cons hit hits ih =>
      have unanswered : query.isAnswered reported hit = false := by
        simp [isAnswered, isSated, fine, many]
      simp only [List.foldl_cons, report, unanswered, Bool.false_eq_true, if_false, ih,
        Coords.project_of_isSingleLane fine, List.reverse_cons, List.append_assoc, List.singleton_append]

end Query

namespace Provider

variable {provider : Provider} {query : Query} {set : CoordSet}

theorem evaluate_eq_ok : (provider.evaluate query).outcome = .ok set ↔
    query.isAnswerable = true ∧ ∃ reported,
      (query.survey provider provider.snapshot.sites []).outcome = .ok reported ∧
        set = .collect query.comparator reported := by
  rw [evaluate, ← Query.walk_eq_survey]
  split
  · rename_i answerable
    cases walked : (query.walk provider).outcome with
    | error fault => simp [answerable, walked, Except.map]
    | ok reported => simp [answerable, walked, Except.map, eq_comm]
  · rename_i unanswerable
    simp [unanswerable]

theorem evaluate_eq_error_of_survey {fault : QueryFault} (answerable : query.isAnswerable = true)
    (refused : (query.survey provider provider.snapshot.sites []).outcome = .error fault) :
    (provider.evaluate query).outcome = .error fault := by
  rw [← Query.walk_eq_survey] at refused
  simp [evaluate, answerable, refused, Except.map]

theorem evaluate_of_reads (answerable : query.isAnswerable = true)
    (read : ∀ site ∈ provider.snapshot.sites, query.Reads provider site) :
    (provider.evaluate query).outcome =
      .ok (.collect query.comparator ((query.listing provider).foldl query.report [])) :=
  evaluate_eq_ok.mpr ⟨answerable, _, Query.survey_of_reads read, rfl⟩

/-- An answer to a query for single lanes has seen every warp, and has the whole listing. -/
theorem lanes_of_evaluate (fine : query.granularity.isSingleLane = true) (many : query.select.single = false)
    (answered : (provider.evaluate query).outcome = .ok set) :
    (∀ site ∈ provider.snapshot.sites, query.Reads provider site) ∧
      set = .collect query.comparator (query.listing provider).reverse := by
  obtain ⟨-, reported, surveyed, rfl⟩ := evaluate_eq_ok.mp answered
  have unplaced := Granularity.not_isPlaced_of_isSingleLane fine
  refine ⟨Query.reads_of_survey unplaced many surveyed, ?_⟩
  rw [Query.eq_foldl_of_survey surveyed, Query.foldl_report_of_isSingleLane fine many, List.append_nil]
  rfl

end Provider

end LaneScope
