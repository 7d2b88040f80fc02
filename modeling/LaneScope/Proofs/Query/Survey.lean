import LaneScope.Query.Walk

/-!
Surveys.  A survey goes over a plain list of warps: every hit is reported unless its unit has been reported, and warps
of a reported unit are passed over unread.  Main statement: a walk gives what the survey of all warps gives, so rounds
that end early and keys that were seen lose no unit and repeat none.
-/

namespace LaneScope

namespace Consulted

variable {α β γ : Type}

@[simp] theorem of_outcome_eq_ok {value found : α} : (of value).outcome = .ok found ↔ found = value := by
  simp only [of, Except.ok.injEq]
  exact eq_comm

@[simp] theorem of_andThen (value : α) (next : α → Consulted β) : (of value).andThen next = next value := by
  simp [of, andThen]

@[simp] theorem andThen_of (consulted : Consulted α) : consulted.andThen of = consulted := by
  obtain ⟨kernels, outcome⟩ := consulted
  cases outcome <;> simp [of, andThen]

theorem andThen_assoc (first : Consulted α) (second : α → Consulted β) (third : β → Consulted γ) :
    (first.andThen second).andThen third = first.andThen fun value => (second value).andThen third := by
  obtain ⟨kernels, outcome⟩ := first
  cases outcome with
  | error fault => simp [andThen]
  | ok value =>
      simp only [andThen]
      cases (second value).outcome <;> simp

theorem andThen_congr {first : Consulted α} {next next' : α → Consulted β}
    (same : ∀ value, first.outcome = .ok value → next value = next' value) :
    first.andThen next = first.andThen next' := by
  obtain ⟨kernels, outcome⟩ := first
  cases outcome with
  | error fault => rfl
  | ok value => simp only [andThen, same value rfl]

theorem andThen_outcome_eq_ok {first : Consulted α} {next : α → Consulted β} {value : β} :
    (first.andThen next).outcome = .ok value ↔
      ∃ middle, first.outcome = .ok middle ∧ (next middle).outcome = .ok value := by
  obtain ⟨kernels, outcome⟩ := first
  cases outcome <;> simp [andThen]

end Consulted

namespace Granularity

def isPlaced : Granularity → Bool
  | devices | sms | warps => true
  | lanes | kernels | blocks | threads => false

def unitOf : Granularity → Coords → Coords
  | devices, coords => { physical := { dev := coords.physical.dev } }
  | sms, coords => { physical := { dev := coords.physical.dev, sm := coords.physical.sm } }
  | warps, coords =>
    { physical := { dev := coords.physical.dev, sm := coords.physical.sm, wp := coords.physical.wp } }
  | lanes, coords | threads, coords => { physical := coords.physical }
  | kernels, coords => { logical := { kernel := coords.logical.kernel } }
  | blocks, coords => { logical := { kernel := coords.logical.kernel, block := coords.logical.block } }

@[simp] theorem unitOf_project (granularity : Granularity) (coords : Coords) :
    granularity.unitOf (coords.project granularity) = granularity.unitOf coords := by
  cases granularity <;> rfl

variable {granularity : Granularity}

theorem not_isSingleLane_of_isPlaced (placed : granularity.isPlaced = true) : granularity.isSingleLane = false := by
  cases granularity <;> simp_all [isPlaced, isSingleLane]

theorem not_isPlaced_of_isSingleLane (fine : granularity.isSingleLane = true) : granularity.isPlaced = false := by
  cases granularity <;> simp_all [isPlaced, isSingleLane]

end Granularity

def Site.identified (site : Site) (identity : Logical) : Coords :=
  ⟨site.coords.physical, identity⟩

namespace Query

variable (query : Query)

def isSated (reported : List Coords) : Bool :=
  query.select.single && !reported.isEmpty

def isAmong (reported : List Coords) (coords : Coords) : Bool :=
  reported.any fun unit => query.granularity.unitOf coords == query.granularity.unitOf unit

/-- Whether a hit adds nothing to what was reported.  A single lane is met only once. -/
def isAnswered (reported : List Coords) (hit : Coords) : Bool :=
  query.isSated reported || (!query.granularity.isSingleLane && query.isAmong reported hit)

def report (reported : List Coords) (hit : Coords) : List Coords :=
  if query.isAnswered reported hit then reported else hit.project query.granularity :: reported

def passesOver (reported : List Coords) (site : Site) : Bool :=
  query.isSated reported || (query.granularity.isPlaced && query.isAmong reported site.coords)

def enters (snapshot : Snapshot) (site : Site) : Bool :=
  query.opensDevice site.dev && query.opensSm snapshot site.dev site.sm && query.opensWarp snapshot site

def hits (provider : Provider) (site : Site) : Consulted (List Coords) :=
  if query.enters provider.snapshot site then
    let told : Consulted Logical := ⟨provider.snapshot.consults site, provider.identity site⟩
    told.andThen fun identity =>
      if query.filter.logical.acceptsWarp identity then
        .of ((ordinals provider.snapshot.shape.lanes).filterMap (query.hit? provider.snapshot site identity))
      else .of []
  else .of []

/-- The units reported after a survey of the given warps, the latest first. -/
def survey (provider : Provider) : List Site → List Coords → Consulted (List Coords)
  | [], reported => .of reported
  | site :: rest, reported =>
    if query.passesOver reported site then survey provider rest reported
    else (query.hits provider site).andThen fun hits => survey provider rest (hits.foldl query.report reported)

end Query

namespace Query

variable {query : Query} {provider : Provider}

@[simp] theorem passesOver_nil (query : Query) (site : Site) : query.passesOver [] site = false := by
  simp [passesOver, isSated, isAmong]

theorem survey_append (sites rest : List Site) (reported : List Coords) :
    query.survey provider (sites ++ rest) reported =
      (query.survey provider sites reported).andThen (query.survey provider rest) := by
  induction sites generalizing reported with
  | nil => simp [survey]
  | cons site sites ih =>
      simp only [List.cons_append, survey]
      split
      · exact ih reported
      · simp only [ih, Consulted.andThen_assoc]

theorem survey_of_passesOver {sites : List Site} {reported : List Coords}
    (passed : ∀ site ∈ sites, query.passesOver reported site = true) :
    query.survey provider sites reported = .of reported := by
  induction sites with
  | nil => rfl
  | cons site sites ih =>
      rw [List.forall_mem_cons] at passed
      simp only [survey, passed.1, if_true]
      exact ih passed.2

theorem survey_of_not_enters {sites : List Site} {reported : List Coords}
    (shut : ∀ site ∈ sites, query.enters provider.snapshot site = false) :
    query.survey provider sites reported = .of reported := by
  induction sites with
  | nil => rfl
  | cons site sites ih =>
      rw [List.forall_mem_cons] at shut
      simp only [survey, hits, shut.1, Bool.false_eq_true, if_false, Consulted.of_andThen, List.foldl_nil,
        ih shut.2, ite_self]

theorem foldl_report_extends (query : Query) (hits reported : List Coords) :
    ∃ added, hits.foldl query.report reported = added ++ reported ∧
      ∀ unit ∈ added, ∃ hit ∈ hits, unit = hit.project query.granularity := by
  induction hits generalizing reported with
  | nil => exact ⟨[], rfl, by simp⟩
  | cons hit hits ih =>
      obtain ⟨added, extended, from_hits⟩ := ih (query.report reported hit)
      rw [List.foldl_cons, extended, report]
      split
      · refine ⟨added, rfl, ?_⟩
        intro unit member
        obtain ⟨later, laterMember, projected⟩ := from_hits unit member
        exact ⟨later, List.mem_cons_of_mem _ laterMember, projected⟩
      · refine ⟨added ++ [hit.project query.granularity], by simp, ?_⟩
        intro unit member
        rcases List.mem_append.mp member with old | new
        · obtain ⟨later, laterMember, projected⟩ := from_hits unit old
          exact ⟨later, List.mem_cons_of_mem _ laterMember, projected⟩
        · exact ⟨hit, List.mem_cons_self, List.mem_singleton.mp new⟩

theorem foldl_report_of_isAnswered {hits reported : List Coords}
    (answered : ∀ hit ∈ hits, query.isAnswered reported hit = true) :
    hits.foldl query.report reported = reported := by
  induction hits with
  | nil => rfl
  | cons hit hits ih =>
      rw [List.forall_mem_cons] at answered
      simp only [List.foldl_cons, report, answered.1, if_true]
      exact ih answered.2

theorem unitOf_identified (placed : query.granularity.isPlaced = true) (site : Site) (identity : Logical) :
    query.granularity.unitOf (site.identified identity) = query.granularity.unitOf site.coords := by
  cases kind : query.granularity <;> simp [kind, Granularity.isPlaced] at placed <;> rfl

theorem unitOf_hit {snapshot : Snapshot} {site : Site} {identity : Logical} {ln : Ordinal} {hit : Coords}
    (found : query.hit? snapshot site identity ln = some hit) (coarse : query.granularity.isSingleLane = false) :
    query.granularity.unitOf hit = query.granularity.unitOf (site.identified identity) := by
  simp only [hit?, Option.ite_none_right_eq_some, Option.some.injEq] at found
  obtain ⟨-, rfl⟩ := found
  cases kind : query.granularity <;> simp [kind, Granularity.isSingleLane] at coarse <;> rfl

theorem hits_eq_ok {site : Site} {found : List Coords} : (query.hits provider site).outcome = .ok found ↔
    (query.enters provider.snapshot site = false ∧ found = []) ∨
      (query.enters provider.snapshot site = true ∧ ∃ identity, provider.identity site = .ok identity ∧
        found = if query.filter.logical.acceptsWarp identity then
          (ordinals provider.snapshot.shape.lanes).filterMap (query.hit? provider.snapshot site identity) else []) := by
  simp only [hits]
  cases entered : query.enters provider.snapshot site with
  | false => simp
  | true =>
      simp only [if_true, Consulted.andThen_outcome_eq_ok, Bool.true_eq_false, false_and, false_or, true_and]
      apply exists_congr
      intro identity
      apply and_congr_right
      intro _
      split <;> exact Consulted.of_outcome_eq_ok

theorem mem_hits {site : Site} {found : List Coords} {hit : Coords}
    (read : (query.hits provider site).outcome = .ok found) : hit ∈ found ↔
      query.enters provider.snapshot site = true ∧ ∃ identity, provider.identity site = .ok identity ∧
        query.filter.logical.acceptsWarp identity = true ∧ ∃ ln ∈ ordinals provider.snapshot.shape.lanes,
          query.hit? provider.snapshot site identity ln = some hit := by
  rcases hits_eq_ok.mp read with ⟨shut, rfl⟩ | ⟨entered, identity, told, rfl⟩
  · simp [shut]
  · simp only [entered, told, Except.ok.injEq, true_and, exists_eq_left']
    split
    · rename_i accepted
      simp only [List.mem_filterMap, accepted, true_and]
    · rename_i refused
      simp [refused]

theorem survey_extends {sites : List Site} {reported after : List Coords}
    (placed : query.granularity.isPlaced = true)
    (surveyed : (query.survey provider sites reported).outcome = .ok after) :
    ∃ added, after = added ++ reported ∧ ∀ unit ∈ added, ∃ site ∈ sites,
      query.granularity.unitOf unit = query.granularity.unitOf site.coords := by
  induction sites generalizing reported with
  | nil =>
      rw [survey, Consulted.of_outcome_eq_ok] at surveyed
      exact ⟨[], surveyed, by simp⟩
  | cons site sites ih =>
      simp only [survey] at surveyed
      split at surveyed
      · obtain ⟨added, extended, units⟩ := ih surveyed
        refine ⟨added, extended, ?_⟩
        intro unit member
        obtain ⟨later, laterMember, same⟩ := units unit member
        exact ⟨later, List.mem_cons_of_mem _ laterMember, same⟩
      · obtain ⟨found, read, rest⟩ := Consulted.andThen_outcome_eq_ok.mp surveyed
        obtain ⟨added, extended, units⟩ := ih rest
        obtain ⟨here, folded, from_hits⟩ := foldl_report_extends query found reported
        refine ⟨added ++ here, by rw [extended, folded, List.append_assoc], ?_⟩
        intro unit member
        rcases List.mem_append.mp member with old | new
        · obtain ⟨later, laterMember, same⟩ := units unit old
          exact ⟨later, List.mem_cons_of_mem _ laterMember, same⟩
        · obtain ⟨hit, hitMember, rfl⟩ := from_hits unit new
          obtain ⟨-, identity, -, -, ln, -, hitEq⟩ := (mem_hits read).mp hitMember
          have coarse := Granularity.not_isSingleLane_of_isPlaced placed
          refine ⟨site, List.mem_cons_self, ?_⟩
          rw [Granularity.unitOf_project, unitOf_hit hitEq coarse, unitOf_identified placed]

end Query

end LaneScope
