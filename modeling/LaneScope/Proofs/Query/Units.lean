import LaneScope.Proofs.Query.Lanes

/-!
Answers to queries for coarser units.  Main statements: a query for warps, multiprocessors or devices reports the first
lane of each of them that the query for lanes lists, and a query for kernels or blocks the first thread of each of them
that the query for threads lists.
-/

namespace LaneScope

def IsFirst {κ : Type} (key : Coords → κ) (listing : List Coords) (first : Coords) : Prop :=
  ∃ earlier later, listing = earlier ++ first :: later ∧ ∀ other ∈ earlier, key other ≠ key first

structure ReportsFirsts (granularity : Granularity) (listing : List Coords) (set : CoordSet) : Prop where
  mem_iff : ∀ unit, unit ∈ set.coords ↔
    ∃ first, IsFirst granularity.unitOf listing first ∧ unit = first.project granularity
  onePerUnit : ∀ coords ∈ listing, ∃ unit ∈ set.coords, granularity.unitOf unit = granularity.unitOf coords ∧
    ∀ other ∈ set.coords, granularity.unitOf other = granularity.unitOf coords → other = unit
  noneElse : ∀ unit ∈ set.coords, ∃ coords ∈ listing, granularity.unitOf coords = granularity.unitOf unit
  nodup : set.coords.toList.Nodup

theorem ReportsFirsts.eq_of_unitOf_eq {granularity : Granularity} {listing : List Coords} {set : CoordSet}
    (reports : ReportsFirsts granularity listing set) {unit other : Coords} (member : unit ∈ set.coords)
    (otherMember : other ∈ set.coords) (same : granularity.unitOf other = granularity.unitOf unit) : other = unit := by
  obtain ⟨coords, listed, met⟩ := reports.noneElse unit member
  obtain ⟨only, -, -, unique⟩ := reports.onePerUnit coords listed
  rw [unique unit member met.symm, unique other otherMember (same.trans met.symm)]

section IsFirst

variable {κ : Type} {key : Coords → κ} {listing : List Coords} {hit first second : Coords}

theorem isFirst_cons :
    IsFirst key (hit :: listing) first ↔ first = hit ∨ key hit ≠ key first ∧ IsFirst key listing first := by
  constructor
  · rintro ⟨earlier, later, split, apart⟩
    cases earlier with
    | nil =>
        rw [List.nil_append, List.cons.injEq] at split
        exact .inl split.1.symm
    | cons newest earlier =>
        rw [List.cons_append, List.cons.injEq] at split
        obtain ⟨rfl, rest⟩ := split
        rw [List.forall_mem_cons] at apart
        exact .inr ⟨apart.1, earlier, later, rest, apart.2⟩
  · rintro (rfl | ⟨different, earlier, later, rfl, apart⟩)
    · exact ⟨[], listing, rfl, by simp⟩
    · exact ⟨hit :: earlier, later, rfl, List.forall_mem_cons.mpr ⟨different, apart⟩⟩

theorem IsFirst.mem (isFirst : IsFirst key listing first) : first ∈ listing := by
  obtain ⟨earlier, later, rfl, -⟩ := isFirst
  simp

theorem exists_isFirst (key : Coords → κ) (member : hit ∈ listing) :
    ∃ first, IsFirst key listing first ∧ key first = key hit := by
  induction listing with
  | nil => simp at member
  | cons newest listing ih =>
      by_cases same : key newest = key hit
      · exact ⟨newest, isFirst_cons.mpr (.inl rfl), same⟩
      · rcases List.mem_cons.mp member with rfl | later
        · exact (same rfl).elim
        · obtain ⟨first, isFirst, keyEq⟩ := ih later
          exact ⟨first, isFirst_cons.mpr (.inr ⟨keyEq ▸ same, isFirst⟩), keyEq⟩

theorem IsFirst.unique (isFirst : IsFirst key listing first) (isSecond : IsFirst key listing second)
    (same : key first = key second) : first = second := by
  induction listing with
  | nil => simp [IsFirst] at isFirst
  | cons newest listing ih =>
      rcases isFirst_cons.mp isFirst with rfl | ⟨different, deeper⟩
      · rcases isFirst_cons.mp isSecond with rfl | ⟨apart, -⟩
        · rfl
        · exact (apart same).elim
      · rcases isFirst_cons.mp isSecond with rfl | ⟨-, alsoDeeper⟩
        · exact (different same.symm).elim
        · exact ih deeper alsoDeeper

end IsFirst

namespace Query

variable {query : Query}

theorem mem_foldl_report (coarse : query.granularity.isSingleLane = false) (many : query.select.single = false)
    {hits reported : List Coords} {unit : Coords} :
    unit ∈ hits.foldl query.report reported ↔ unit ∈ reported ∨
      ∃ first, IsFirst query.granularity.unitOf hits first ∧
        (∀ other ∈ reported, query.granularity.unitOf other ≠ query.granularity.unitOf first) ∧
        unit = first.project query.granularity := by
  -- Among the hits to come, only those of units without a report are still first of their unit.
  induction hits generalizing reported with
  | nil => simp [IsFirst]
  | cons hit hits ih =>
      have answered : query.isAnswered reported hit = query.isAmong reported hit := by
        simp [isAnswered, isSated, many, coarse]
      rw [List.foldl_cons, report, answered]
      cases among : query.isAmong reported hit with
      | true =>
          obtain ⟨known, knownMember, sameUnit⟩ : ∃ known ∈ reported,
              query.granularity.unitOf hit = query.granularity.unitOf known := by
            simpa [isAmong] using among
          rw [if_pos rfl, ih]
          apply or_congr_right
          apply exists_congr
          intro first
          rw [isFirst_cons]
          constructor
          · rintro ⟨isFirst, apart, projected⟩
            exact ⟨.inr ⟨sameUnit ▸ apart known knownMember, isFirst⟩, apart, projected⟩
          · rintro ⟨rfl | ⟨-, isFirst⟩, apart, projected⟩
            · exact (apart known knownMember sameUnit.symm).elim
            · exact ⟨isFirst, apart, projected⟩
      | false =>
          have fresh : ∀ other ∈ reported, query.granularity.unitOf other ≠ query.granularity.unitOf hit := by
            intro other member same
            simp [isAmong] at among
            exact among other member same.symm
          rw [if_neg (by simp), ih]
          constructor
          · rintro (member | ⟨first, isFirst, apart, rfl⟩)
            · rcases List.mem_cons.mp member with rfl | old
              · exact .inr ⟨hit, isFirst_cons.mpr (.inl rfl), fresh, rfl⟩
              · exact .inl old
            · rw [List.forall_mem_cons, Granularity.unitOf_project] at apart
              exact .inr ⟨first, isFirst_cons.mpr (.inr ⟨apart.1, isFirst⟩), apart.2, rfl⟩
          · rintro (old | ⟨first, isFirst, apart, rfl⟩)
            · exact .inl (List.mem_cons_of_mem _ old)
            · rcases isFirst_cons.mp isFirst with rfl | ⟨different, deeper⟩
              · exact .inl List.mem_cons_self
              · refine .inr ⟨first, deeper, List.forall_mem_cons.mpr ⟨?_, apart⟩, rfl⟩
                rw [Granularity.unitOf_project]
                exact different

theorem reportsFirsts_collect (coarse : query.granularity.isSingleLane = false) (many : query.select.single = false)
    (comparator : Comparator) (hits : List Coords) :
    ReportsFirsts query.granularity hits (.collect comparator (hits.foldl query.report [])) := by
  have members (unit : Coords) : unit ∈ (CoordSet.collect comparator (hits.foldl query.report [])).coords ↔
      ∃ first, IsFirst query.granularity.unitOf hits first ∧ unit = first.project query.granularity := by
    simp [CoordSet.mem_collect, mem_foldl_report coarse many]
  refine ⟨members, ?_, ?_, ?_⟩
  · intro coords member
    obtain ⟨first, isFirst, same⟩ := exists_isFirst query.granularity.unitOf member
    refine ⟨first.project query.granularity, (members _).mpr ⟨first, isFirst, rfl⟩, ?_, ?_⟩
    · rw [Granularity.unitOf_project, same]
    · intro other otherMember otherSame
      obtain ⟨second, isSecond, rfl⟩ := (members other).mp otherMember
      rw [Granularity.unitOf_project] at otherSame
      rw [isSecond.unique isFirst (otherSame.trans same.symm)]
  · intro unit member
    obtain ⟨first, isFirst, rfl⟩ := (members unit).mp member
    exact ⟨first, isFirst.mem, (query.granularity.unitOf_project first).symm⟩
  · exact comparator.nodup_of_ascending (CoordSet.collect_ascending comparator _)

theorem hits_congr {query other : Query} (filter : query.filter = other.filter) (select : query.select = other.select)
    (logical : query.granularity.isLogical = other.granularity.isLogical) (provider : Provider) :
    query.hits provider = other.hits provider := by
  funext site
  have enters : query.enters provider.snapshot site = other.enters provider.snapshot site := by
    simp only [Query.enters, opensDevice, opensSm, opensWarp, filter, select, logical]
  have hit? : query.hit? provider.snapshot site = other.hit? provider.snapshot site := by
    funext identity ln
    have takesLane : query.takesLane provider.snapshot site ln = other.takesLane provider.snapshot site ln := by
      simp only [Query.takesLane, filter, select]
    rw [Query.hit?, Query.hit?, takesLane, filter]
  simp only [hits, enters, hit?, filter]

end Query

namespace Provider

variable {provider : Provider}

/-- A query for coarser units reports the firsts of a listing of single lanes, if it accepts the same warps. -/
theorem reportsFirsts_of_lanes {fine coarse : Query} {lanes : CoordSet}
    (listed : (provider.evaluate fine).outcome = .ok lanes) (single : fine.granularity.isSingleLane = true)
    (many : fine.select.single = false) (sequential : fine.comparator = { addressing := .physical })
    (grouped : coarse.granularity.isSingleLane = false) (unordered : coarse.comparator.origin = none)
    (filter : coarse.filter = fine.filter) (select : coarse.select = fine.select)
    (logical : coarse.granularity.isLogical = fine.granularity.isLogical) :
    ∃ set, (provider.evaluate coarse).outcome = .ok set ∧
      ReportsFirsts coarse.granularity lanes.coords.toList set := by
  obtain ⟨read, rfl⟩ := lanes_of_evaluate single many listed
  have sameHits := Query.hits_congr filter select logical provider
  have coarseRead : ∀ site ∈ provider.snapshot.sites, coarse.Reads provider site :=
    fun site member => Query.reads_congr sameHits.symm (read site member)
  have answerable : coarse.isAnswerable = true := by
    simp [Query.isAnswerable, unordered]
  refine ⟨_, evaluate_of_reads answerable coarseRead, ?_⟩
  rw [sequential, Query.toList_collect_listing, Query.listing_congr sameHits.symm]
  exact Query.reportsFirsts_collect grouped (select ▸ many) _ _

theorem evaluate_reportsFirst_lane (provider : Provider) (filter : Coords) (select : Select)
    (many : select.single = false) {lanes : CoordSet}
    (listed : (provider.evaluate
      { granularity := .lanes, filter, select, comparator := { addressing := .physical } }).outcome = .ok lanes) :
    ∀ addressing, ∀ granularity ∈ [Granularity.warps, .sms, .devices], ∃ set,
      (provider.evaluate { granularity, filter, select, comparator := { addressing } }).outcome = .ok set ∧
        ReportsFirsts granularity lanes.coords.toList set := by
  intro addressing granularity member
  have physical : granularity.isSingleLane = false ∧ granularity.isLogical = false := by
    simp only [List.mem_cons, List.not_mem_nil, or_false] at member
    rcases member with rfl | rfl | rfl <;> exact ⟨rfl, rfl⟩
  exact reportsFirsts_of_lanes listed rfl many rfl physical.1 rfl rfl rfl physical.2

theorem halfIdle_reportsFirst_lane : ∃ lanes,
    (Snapshot.halfIdle.provider.evaluate
      { granularity := .lanes, select := { active := true }, comparator := { addressing := .physical } }).outcome =
        .ok lanes ∧ lanes.coords.size = 3 ∧
    ∀ addressing, ∀ granularity ∈ [Granularity.warps, .sms, .devices], ∃ set,
      (Snapshot.halfIdle.provider.evaluate
        { granularity, select := { active := true }, comparator := { addressing } }).outcome = .ok set ∧
      ReportsFirsts granularity lanes.coords.toList set := by
  refine ⟨_, by cbv, by rfl, ?_⟩
  exact evaluate_reportsFirst_lane Snapshot.halfIdle.provider .wild { active := true } rfl (by cbv)

theorem evaluate_reportsFirst_thread (provider : Provider) (filter : Coords) (select : Select)
    (many : select.single = false) {threads : CoordSet}
    (listed : (provider.evaluate
      { granularity := .threads, filter, select, comparator := { addressing := .physical } }).outcome = .ok threads) :
    ∀ addressing, ∀ granularity ∈ [Granularity.kernels, .blocks], ∃ set,
      (provider.evaluate { granularity, filter, select, comparator := { addressing } }).outcome = .ok set ∧
        ReportsFirsts granularity threads.coords.toList set := by
  intro addressing granularity member
  have logical : granularity.isSingleLane = false ∧ granularity.isLogical = true := by
    simp only [List.mem_cons, List.not_mem_nil, or_false] at member
    rcases member with rfl | rfl <;> exact ⟨rfl, rfl⟩
  exact reportsFirsts_of_lanes listed rfl many rfl logical.1 rfl rfl rfl logical.2

theorem halfIdle_reportsFirst_thread : ∃ threads,
    (Snapshot.halfIdle.provider.evaluate
      { granularity := .threads, select := { active := true }, comparator := { addressing := .physical } }).outcome =
        .ok threads ∧ threads.coords.size = 3 ∧
    ∀ addressing, ∀ granularity ∈ [Granularity.kernels, .blocks], ∃ set,
      (Snapshot.halfIdle.provider.evaluate
        { granularity, select := { active := true }, comparator := { addressing } }).outcome = .ok set ∧
      ReportsFirsts granularity threads.coords.toList set := by
  refine ⟨_, by cbv, by rfl, ?_⟩
  exact evaluate_reportsFirst_thread Snapshot.halfIdle.provider .wild { active := true } rfl (by cbv)

end Provider

end LaneScope
