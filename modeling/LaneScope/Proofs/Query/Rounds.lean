import LaneScope.Proofs.Query.Survey

/-!
Rounds.  A walk is made of nested rounds that end early and of keys that were seen; a survey passes over the warps of
reported units instead.  Main statement: both report the same units, ask for the same kernels and meet the same fault.
-/

namespace LaneScope

namespace Granularity

variable {granularity : Granularity}

@[simp] theorem key?_project (granularity : Granularity) (coords : Coords) :
    granularity.key? (coords.project granularity).logical = granularity.key? coords.logical := by
  cases granularity <;> rfl

theorem isPlaced_of_isOnePerSm (one : granularity.isOnePerSm = true) : granularity.isPlaced = true := by
  cases granularity <;> simp_all [isPlaced, isOnePerSm]

theorem isPlaced_of_isOnePerDevice (one : granularity.isOnePerDevice = true) : granularity.isPlaced = true := by
  cases granularity <;> simp_all [isPlaced, isOnePerDevice]

theorem unitOf_eq_of_isOnePerSm {site other : Site} (one : granularity.isOnePerSm = true)
    (dev : site.dev = other.dev) (sm : site.sm = other.sm) :
    granularity.unitOf site.coords = granularity.unitOf other.coords := by
  cases granularity <;> simp_all [isOnePerSm, unitOf, Site.coords]

theorem unitOf_eq_of_isOnePerDevice {site other : Site} (one : granularity.isOnePerDevice = true)
    (dev : site.dev = other.dev) : granularity.unitOf site.coords = granularity.unitOf other.coords := by
  cases granularity <;> simp_all [isOnePerDevice, unitOf, Site.coords]

theorem unitOf_ne_of_dev {site other : Site} (placed : granularity.isPlaced = true)
    (apart : site.dev ≠ other.dev) : granularity.unitOf site.coords ≠ granularity.unitOf other.coords := by
  cases granularity <;> simp_all [isPlaced, unitOf, Site.coords]

theorem unitOf_ne_of_sm {site other : Site} (placed : granularity.isPlaced = true)
    (many : granularity.isOnePerDevice = false) (apart : site.sm ≠ other.sm) :
    granularity.unitOf site.coords ≠ granularity.unitOf other.coords := by
  cases granularity <;> simp_all [isPlaced, isOnePerDevice, unitOf, Site.coords]

theorem unitOf_ne_of_wp {site other : Site} (placed : granularity.isPlaced = true)
    (many : granularity.isOnePerSm = false) (apart : site.wp ≠ other.wp) :
    granularity.unitOf site.coords ≠ granularity.unitOf other.coords := by
  cases granularity <;> simp_all [isPlaced, isOnePerSm, unitOf, Site.coords]

end Granularity

namespace Snapshot

variable {snapshot : Snapshot} {dev sm : Ordinal} {site : Site}

theorem unit_of_mem_sitesOnSm (member : site ∈ snapshot.sitesOnSm dev sm) : site.dev = dev ∧ site.sm = sm := by
  obtain ⟨wp, -, rfl⟩ := List.mem_map.mp member
  exact ⟨rfl, rfl⟩

theorem dev_of_mem_sitesOnDevice (member : site ∈ snapshot.sitesOnDevice dev) : site.dev = dev := by
  obtain ⟨sm, -, onSm⟩ := List.mem_flatMap.mp member
  exact (unit_of_mem_sitesOnSm onSm).1

end Snapshot

def Findings.after (granularity : Granularity) (reported : List Coords) : Findings :=
  ⟨reported, reported.flatMap fun unit => (granularity.key? unit.logical).toList⟩

@[simp] theorem Findings.add_after (granularity : Granularity) (reported : List Coords) (hit : Coords) :
    (after granularity reported).add granularity hit = after granularity (hit.project granularity :: reported) := by
  simp [add, after]

namespace Query

variable {query : Query} {provider : Provider}

theorem hasSeen_after (reported : List Coords) (site : Site) (identity : Logical) :
    (Findings.after query.granularity reported).hasSeen query.granularity identity =
      (!query.granularity.isPlaced && !query.granularity.isSingleLane &&
        query.isAmong reported (site.identified identity)) := by
  rw [Bool.eq_iff_iff]
  cases kind : query.granularity <;>
    simp [Findings.hasSeen, Findings.after, Granularity.key?, Granularity.isPlaced, Granularity.isSingleLane,
      isAmong, Granularity.unitOf, Site.identified, kind]

theorem isAnswered_hit {snapshot : Snapshot} {site : Site} {identity : Logical} {ln : Ordinal} {hit : Coords}
    (found : query.hit? snapshot site identity ln = some hit) (reported : List Coords) :
    query.isAnswered reported hit = query.isAnswered reported (site.identified identity) := by
  simp only [isAnswered, isAmong]
  cases coarse : query.granularity.isSingleLane with
  | true => simp
  | false => rw [unitOf_hit found coarse]

theorem isEnough_after_self (oneUnit : Bool) (reported : List Coords) :
    query.isEnough oneUnit (.after query.granularity reported) (.after query.granularity reported) =
      query.isSated reported := by
  simp [isEnough, isSated, Findings.after]

theorem round_visitLane {snapshot : Snapshot} {site : Site} {identity : Logical} {reported : List Coords}
    (lanes : List Ordinal) (unanswered : query.isAnswered reported (site.identified identity) = false) :
    query.round query.granularity.isOnePerWarp (query.visitLane snapshot site identity) lanes
        (.after query.granularity reported) =
      .of (.after query.granularity
        ((lanes.filterMap (query.hit? snapshot site identity)).foldl query.report reported)) := by
  induction lanes generalizing reported with
  | nil => rfl
  | cons ln lanes ih =>
      have unsated : query.isSated reported = false := (Bool.or_eq_false_iff.mp unanswered).1
      cases found : query.hit? snapshot site identity ln with
      | none =>
          simp only [round, visitLane, found, Consulted.of_andThen, isEnough_after_self, unsated, Bool.false_eq_true,
            if_false, List.filterMap_cons_none]
          exact ih unanswered
      | some hit =>
          have added : query.report reported hit = hit.project query.granularity :: reported := by
            simp only [report, isAnswered_hit found, unanswered, Bool.false_eq_true, if_false]
          simp only [round, visitLane, found, Consulted.of_andThen, Findings.add_after,
            List.filterMap_cons_some found, List.foldl_cons, added]
          split
          · rename_i enough
            -- The hit answers for the lanes that the round leaves out.
            rw [foldl_report_of_isAnswered]
            intro later member
            obtain ⟨_, -, foundLater⟩ := List.mem_filterMap.mp member
            simp only [isEnough, Findings.after, List.isEmpty_cons, List.length_cons, Bool.not_false, Bool.and_true,
              Nat.lt_add_one, decide_true, Granularity.isOnePerWarp, Bool.or_eq_true] at enough
            rcases enough with single | coarse
            · simp [isAnswered, isSated, single]
            · rw [Bool.not_eq_true'] at coarse
              simp [isAnswered, isAmong, coarse, unitOf_hit found coarse, unitOf_hit foundLater coarse]
          · rename_i notEnough
            apply ih
            simp only [isEnough, Findings.after, List.isEmpty_cons, List.length_cons, Bool.not_false, Bool.and_true,
              Nat.lt_add_one, decide_true, Granularity.isOnePerWarp, Bool.or_eq_true, not_or, Bool.not_eq_true,
              Bool.not_eq_false'] at notEnough
            simp [isAnswered, isSated, notEnough.1, notEnough.2]

theorem isAnswered_identified {site : Site} {reported : List Coords} (identity : Logical)
    (unread : query.passesOver reported site = false) :
    query.isAnswered reported (site.identified identity) =
      (Findings.after query.granularity reported).hasSeen query.granularity identity := by
  obtain ⟨unsated, apart⟩ := Bool.or_eq_false_iff.mp unread
  rw [hasSeen_after reported site, isAnswered, unsated, Bool.false_or]
  cases placed : query.granularity.isPlaced with
  | true =>
      simp only [placed, Bool.true_and, isAmong, ← unitOf_identified placed site identity] at apart
      simp only [isAmong, apart, Bool.and_false]
  | false => simp only [Bool.not_false, Bool.true_and]

theorem visitWarp_after {site : Site} {reported : List Coords}
    (reached : query.opensDevice site.dev = true ∧ query.opensSm provider.snapshot site.dev site.sm = true)
    (unread : query.passesOver reported site = false) :
    query.visitWarp provider site (.after query.granularity reported) =
      (query.survey provider [site] reported).andThen fun reported => .of (.after query.granularity reported) := by
  simp only [visitWarp, survey, unread, Bool.false_eq_true, if_false, hits, enters, reached.1, reached.2,
    Bool.true_and]
  split
  · simp only [Consulted.andThen_assoc]
    congr 1
    funext identity
    rw [← isAnswered_identified identity unread]
    by_cases accepted : query.filter.logical.acceptsWarp identity
    · simp only [accepted, Bool.true_and, if_true, Consulted.of_andThen]
      cases answered : query.isAnswered reported (site.identified identity) with
      | true =>
          simp only [Bool.not_true, Bool.false_eq_true, if_false]
          rw [foldl_report_of_isAnswered]
          intro hit member
          obtain ⟨ln, -, found⟩ := List.mem_filterMap.mp member
          rw [isAnswered_hit found, answered]
      | false =>
          simp only [Bool.not_false, if_true]
          exact round_visitLane _ answered
    · simp [accepted]
  · simp

theorem passesOver_of_isEnough {oneUnit : Bool} {sites : List Site} {reported after : List Coords} {site : Site}
    (surveyed : (query.survey provider sites reported).outcome = .ok after)
    (together : oneUnit = true → query.granularity.isPlaced = true ∧
      ∀ source ∈ sites, query.granularity.unitOf site.coords = query.granularity.unitOf source.coords)
    (enough : query.isEnough oneUnit (.after query.granularity reported) (.after query.granularity after) = true) :
    query.passesOver after site = true := by
  simp only [isEnough, Bool.or_eq_true] at enough
  rcases enough with sated | grown
  · simp only [passesOver, isSated, Bool.or_eq_true]
    exact .inl sated
  · simp only [Bool.and_eq_true, Findings.after] at grown
    obtain ⟨placed, same⟩ := together grown.1
    obtain ⟨added, rfl, fromSites⟩ := survey_extends placed surveyed
    cases added with
    | nil => simp at grown
    | cons newest added =>
        obtain ⟨source, sourceMember, unitEq⟩ := fromSites newest List.mem_cons_self
        simp [passesOver, placed, isAmong, unitEq, same source sourceMember]

theorem not_passesOver_of_not_isEnough {oneUnit : Bool} {sites : List Site} {reported after : List Coords}
    {site : Site} (surveyed : (query.survey provider sites reported).outcome = .ok after)
    (apart : oneUnit = false → query.granularity.isPlaced = true →
      ∀ source ∈ sites, query.granularity.unitOf source.coords ≠ query.granularity.unitOf site.coords)
    (unread : query.passesOver reported site = false)
    (notEnough : query.isEnough oneUnit (.after query.granularity reported) (.after query.granularity after) = false) :
    query.passesOver after site = false := by
  obtain ⟨unsated, ungrown⟩ := Bool.or_eq_false_iff.mp notEnough
  have stillUnsated : query.isSated after = false := unsated
  rw [passesOver, stillUnsated, Bool.false_or]
  cases placed : query.granularity.isPlaced with
  | false => rfl
  | true =>
      obtain ⟨added, rfl, fromSites⟩ := survey_extends placed surveyed
      have old := (Bool.or_eq_false_iff.mp unread).2
      rw [placed, Bool.true_and] at old
      rw [Bool.true_and, isAmong, List.any_append, Bool.or_eq_false_iff]
      refine ⟨?_, old⟩
      rw [List.any_eq_false]
      intro newest newestMember
      obtain ⟨source, sourceMember, unitEq⟩ := fromSites newest newestMember
      cases one : oneUnit with
      | true =>
          have longer := List.length_pos_of_mem newestMember
          simp only [one, Bool.true_and, decide_eq_false_iff_not, Findings.after, List.length_append] at ungrown
          omega
      | false =>
          rw [unitEq, beq_iff_eq]
          exact (apart one placed source sourceMember).symm

/-- Rounds over units that each stand for some warps give what a survey of all their warps gives.  A round that reports
one unit has warps of one unit only, and in any other round no two visits can meet the same unit. -/
theorem round_after {α : Type} {oneUnit : Bool} {visit : α → Findings → Consulted Findings}
    {sitesOf : α → List Site} {units : List α}
    (visits : ∀ unit ∈ units, ∀ reported, (∀ site ∈ sitesOf unit, query.passesOver reported site = false) →
      visit unit (.after query.granularity reported) =
        (query.survey provider (sitesOf unit) reported).andThen fun reported => .of (.after query.granularity reported))
    (together : oneUnit = true → query.granularity.isPlaced = true ∧
      ∀ site ∈ units.flatMap sitesOf, ∀ other ∈ units.flatMap sitesOf,
        query.granularity.unitOf site.coords = query.granularity.unitOf other.coords)
    (apart : oneUnit = false → query.granularity.isPlaced = true → units.Pairwise fun first later =>
      ∀ source ∈ sitesOf first, ∀ site ∈ sitesOf later,
        query.granularity.unitOf source.coords ≠ query.granularity.unitOf site.coords)
    {reported : List Coords} (unread : ∀ site ∈ units.flatMap sitesOf, query.passesOver reported site = false) :
    query.round oneUnit visit units (.after query.granularity reported) =
      (query.survey provider (units.flatMap sitesOf) reported).andThen
        fun reported => .of (.after query.granularity reported) := by
  -- As long as the round goes on, the survey would not pass over any of the warps ahead.
  induction units generalizing reported with
  | nil => simp [round, survey]
  | cons unit units ih =>
      rw [List.flatMap_cons] at together unread ⊢
      have here : ∀ site ∈ sitesOf unit, query.passesOver reported site = false :=
        fun site member => unread site (List.mem_append_left _ member)
      simp only [round, visits unit List.mem_cons_self reported here, survey_append, Consulted.andThen_assoc,
        Consulted.of_andThen]
      apply Consulted.andThen_congr
      intro after surveyed
      split
      · rename_i enough
        rw [survey_of_passesOver, Consulted.of_andThen]
        intro site member
        apply passesOver_of_isEnough surveyed _ enough
        intro one
        obtain ⟨placed, same⟩ := together one
        exact ⟨placed, fun source sourceMember =>
          same site (List.mem_append_right _ member) source (List.mem_append_left _ sourceMember)⟩
      · rename_i notEnough
        apply ih (fun later member => visits later (List.mem_cons_of_mem _ member))
        · intro one
          obtain ⟨placed, same⟩ := together one
          exact ⟨placed, fun site member other otherMember =>
            same site (List.mem_append_right _ member) other (List.mem_append_right _ otherMember)⟩
        · intro many placed
          exact (List.pairwise_cons.mp (apart many placed)).2
        · intro site member
          apply not_passesOver_of_not_isEnough surveyed _ (unread site (List.mem_append_right _ member))
            (Bool.not_eq_true _ ▸ notEnough)
          intro many placed source sourceMember
          obtain ⟨later, laterMember, siteMember⟩ := List.mem_flatMap.mp member
          exact (List.pairwise_cons.mp (apart many placed)).1 later laterMember source sourceMember site siteMember

theorem visitSm_after {dev sm : Ordinal} {reported : List Coords} (reached : query.opensDevice dev = true)
    (unread : ∀ site ∈ provider.snapshot.sitesOnSm dev sm, query.passesOver reported site = false) :
    query.visitSm provider dev sm (.after query.granularity reported) =
      (query.survey provider (provider.snapshot.sitesOnSm dev sm) reported).andThen
        fun reported => .of (.after query.granularity reported) := by
  simp only [visitSm]
  split
  · rename_i opened
    simp only [Snapshot.sitesOnSm, List.map_eq_flatMap] at unread ⊢
    apply round_after _ _ _ unread
    · intro wp _ before fresh
      exact visitWarp_after ⟨reached, opened⟩ (fresh _ List.mem_cons_self)
    · intro one
      refine ⟨Granularity.isPlaced_of_isOnePerSm one, ?_⟩
      intro site member other otherMember
      rw [← List.map_eq_flatMap, List.mem_map] at member otherMember
      obtain ⟨wp, -, rfl⟩ := member
      obtain ⟨otherWp, -, rfl⟩ := otherMember
      exact Granularity.unitOf_eq_of_isOnePerSm one rfl rfl
    · intro many placed
      apply (ordinals_distinct _).imp
      intro wp later different source sourceMember site siteMember
      rw [List.mem_singleton] at sourceMember siteMember
      apply Granularity.unitOf_ne_of_wp placed many
      rw [sourceMember, siteMember]
      exact different
  · rename_i shut
    rw [survey_of_not_enters, Consulted.of_andThen]
    intro site member
    obtain ⟨wp, -, rfl⟩ := List.mem_map.mp member
    simp [enters, shut]

theorem visitDevice_after {dev : Ordinal} {reported : List Coords}
    (unread : ∀ site ∈ provider.snapshot.sitesOnDevice dev, query.passesOver reported site = false) :
    query.visitDevice provider dev (.after query.granularity reported) =
      (query.survey provider (provider.snapshot.sitesOnDevice dev) reported).andThen
        fun reported => .of (.after query.granularity reported) := by
  simp only [visitDevice]
  split
  · rename_i opened
    apply round_after _ _ _ unread
    · intro sm _ before fresh
      exact visitSm_after opened fresh
    · intro one
      refine ⟨Granularity.isPlaced_of_isOnePerDevice one, ?_⟩
      intro site member other otherMember
      exact Granularity.unitOf_eq_of_isOnePerDevice one
        ((Snapshot.dev_of_mem_sitesOnDevice member).trans (Snapshot.dev_of_mem_sitesOnDevice otherMember).symm)
    · intro many placed
      apply (ordinals_distinct _).imp
      intro sm later different source sourceMember site siteMember
      apply Granularity.unitOf_ne_of_sm placed many
      rw [(Snapshot.unit_of_mem_sitesOnSm sourceMember).2, (Snapshot.unit_of_mem_sitesOnSm siteMember).2]
      exact different
  · rename_i shut
    rw [survey_of_not_enters, Consulted.of_andThen]
    intro site member
    simp [enters, Snapshot.dev_of_mem_sitesOnDevice member, shut]

/-- A walk reports what the survey of all warps reports, asks for the same kernels and meets the same fault. -/
theorem walk_eq_survey (query : Query) (provider : Provider) :
    query.walk provider = query.survey provider provider.snapshot.sites [] := by
  have start : ({} : Findings) = .after query.granularity [] := rfl
  have fresh : ∀ site ∈ provider.snapshot.sites, query.passesOver [] site = false := by
    simp [passesOver, isSated, isAmong]
  rw [walk, start, round_after (fun dev _ reported unread => visitDevice_after unread) (by simp) _ fresh]
  · simp [Consulted.andThen_assoc, Findings.after, Snapshot.sites]
  · intro _ placed
    apply (ordinals_distinct _).imp
    intro dev later different source sourceMember site siteMember
    apply Granularity.unitOf_ne_of_dev placed
    rw [Snapshot.dev_of_mem_sitesOnDevice sourceMember, Snapshot.dev_of_mem_sitesOnDevice siteMember]
    exact different

end Query

end LaneScope
