import LaneScope.RangeMap

/-!
Insertion into range maps.  Stored ranges ascend, and none reaches into the next one.  Main statement: after any
operations a range is accepted exactly when it fits and overlaps no stored range, and in which order ranges are
inserted does not matter.
-/

namespace LaneScope

variable {α : Type}

namespace Span

/-- Two ranges cannot both be stored if they have one start, or if each starts below the end of the other. -/
def Overlaps (span other : Span α) : Prop :=
  span.start = other.start ∨ (span.start.toNat < other.stop.toNat ∧ other.start.toNat < span.stop.toNat)

def Before (span other : Span α) : Prop :=
  span.start.toNat < other.start.toNat ∧ span.stop.toNat ≤ other.start.toNat

theorem Overlaps.symm {span other : Span α} (overlap : span.Overlaps other) : other.Overlaps span :=
  overlap.imp Eq.symm And.symm

theorem not_overlaps_iff {span other : Span α} (sound : span.start.toNat ≤ span.stop.toNat)
    (otherSound : other.start.toNat ≤ other.stop.toNat) :
    ¬ span.Overlaps other ↔ span.Before other ∨ other.Before span := by
  simp only [Overlaps, Before, ← BitVec.toNat_inj]
  omega

end Span

namespace RangeMap

structure Ordered (map : RangeMap α) : Prop where
  before : map.spans.Pairwise Span.Before
  sound : ∀ span ∈ map.spans, span.start.toNat ≤ span.stop.toNat

theorem mem_takeWhile_of_ascending {spans : List (Span α)} (ascending : spans.Pairwise Span.Before) (limit : Nat)
    {span : Span α} : span ∈ spans.takeWhile (fun span => span.start.toNat < limit) ↔
      span ∈ spans ∧ span.start.toNat < limit := by
  induction spans with
  | nil => simp
  | cons first rest ih =>
      obtain ⟨above, restAscending⟩ := List.pairwise_cons.mp ascending
      by_cases below : first.start.toNat < limit
      · rw [List.takeWhile_cons_of_pos (by simpa using below), List.mem_cons, List.mem_cons, ih restAscending]
        constructor
        · rintro (rfl | ⟨member, spanBelow⟩)
          · exact ⟨.inl rfl, below⟩
          · exact ⟨.inr member, spanBelow⟩
        · rintro ⟨rfl | member, spanBelow⟩
          · exact .inl rfl
          · exact .inr ⟨member, spanBelow⟩
      · rw [List.takeWhile_cons_of_neg (by simpa using below)]
        constructor
        · simp
        · rintro ⟨member, spanBelow⟩
          rcases List.mem_cons.mp member with rfl | later
          · exact (below spanBelow).elim
          · have := (above span later).1
            omega

namespace Ordered

variable {map : RangeMap α}

theorem lastBelow_eq_none (ordered : map.Ordered) {limit : Nat} (none : map.lastBelow limit = none) :
    ∀ span ∈ map.spans, limit ≤ span.start.toNat := by
  intro span member
  rw [lastBelow, List.getLast?_eq_none_iff] at none
  have outside : span ∉ map.spans.takeWhile fun span => span.start.toNat < limit := by simp [none]
  rw [mem_takeWhile_of_ascending ordered.before] at outside
  exact Nat.le_of_not_lt fun below => outside ⟨member, below⟩

theorem lastBelow_eq_some (ordered : map.Ordered) {limit : Nat} {last : Span α}
    (found : map.lastBelow limit = some last) : last ∈ map.spans ∧ last.start.toNat < limit ∧
      ∀ span ∈ map.spans, span.start.toNat < limit → span = last ∨ span.Before last := by
  obtain ⟨earlier, split⟩ := List.getLast?_eq_some_iff.mp found
  have inFront {span : Span α} : span ∈ earlier ++ [last] ↔ span ∈ map.spans ∧ span.start.toNat < limit := by
    rw [← split]
    exact mem_takeWhile_of_ascending ordered.before limit
  have ascending : (earlier ++ [last]).Pairwise Span.Before := by
    rw [← split]
    exact ordered.before.sublist (List.takeWhile_sublist _)
  obtain ⟨member, below⟩ := inFront.mp (List.mem_append_right earlier List.mem_cons_self)
  refine ⟨member, below, ?_⟩
  intro span spanMember spanBelow
  rcases List.mem_append.mp (inFront.mpr ⟨spanMember, spanBelow⟩) with inEarlier | isLast
  · exact .inr ((List.pairwise_append.mp ascending).2.2 span inEarlier last List.mem_cons_self)
  · exact .inl (List.mem_singleton.mp isLast)

end Ordered

structure Insertion (α : Type) where
  start : Address
  size : Address
  value : α

namespace Insertion

def span (new : Insertion α) : Span α :=
  ⟨new.start, new.start + new.size, new.value⟩

def Fits (new : Insertion α) : Prop :=
  new.start.toNat + new.size.toNat < UInt64.size

theorem stop_of_fits {new : Insertion α} (fits : new.Fits) :
    new.span.stop.toNat = new.start.toNat + new.size.toNat := by
  rw [span, BitVec.toNat_add]
  exact Nat.mod_eq_of_lt fits

theorem sound_of_fits {new : Insertion α} (fits : new.Fits) : new.span.start.toNat ≤ new.span.stop.toNat := by
  rw [stop_of_fits fits]
  exact Nat.le_add_right _ _

def probe (new : Insertion α) : Nat :=
  max new.span.stop.toNat (min (new.start.toNat + 1) (UInt64.size - 1))

theorem overlaps_iff {new : Insertion α} (fits : new.Fits) {stored : Span α} (fresh : stored.start ≠ new.start) :
    stored.Overlaps new.span ↔ stored.start.toNat < new.probe ∧ new.start.toNat < stored.stop.toNat := by
  -- At the last address the probe cannot lie above the start, but no stored range reaches beyond that address.
  have stop := stop_of_fits fits
  have storedStop := stored.stop.isLt
  have startApart : stored.start.toNat ≠ new.start.toNat := mt BitVec.eq_of_toNat_eq fresh
  have start : new.span.start = new.start := rfl
  simp only [Span.Overlaps, probe, start, fresh, false_or]
  simp only [Fits, UInt64.size] at fits ⊢
  omega

end Insertion

theorem insert_of_fits (map : RangeMap α) {new : Insertion α} (fits : new.Fits) :
    map.insert new.start new.size new.value =
      match map.startingAt new.start with
      | some stored => .error (.overlap new.start new.span.stop new.start stored.stop)
      | none =>
        match map.lastBelow new.probe with
        | some stored =>
          if stored.stop.toNat ≤ new.start.toNat then .ok ⟨place new.span map.spans⟩
          else .error (.overlap new.start new.span.stop stored.start stored.stop)
        | none => .ok ⟨place new.span map.spans⟩ :=
  if_pos fits

theorem startingAt_eq_none {map : RangeMap α} {start : Address} :
    map.startingAt start = none ↔ ∀ stored ∈ map.spans, stored.start ≠ start := by
  simp [startingAt]

theorem place_perm (span : Span α) (spans : List (Span α)) : (place span spans).Perm (span :: spans) := by
  induction spans with
  | nil => exact .refl _
  | cons first rest ih =>
      rw [place]
      split
      · exact .refl _
      · exact (ih.cons first).trans (.swap span first rest)

theorem place_before {span : Span α} {spans : List (Span α)} (before : spans.Pairwise Span.Before)
    (apart : ∀ stored ∈ spans, stored.Before span ∨ span.Before stored) :
    (place span spans).Pairwise Span.Before := by
  induction spans with
  | nil => exact List.pairwise_singleton _ _
  | cons first rest ih =>
      obtain ⟨above, restBefore⟩ := List.pairwise_cons.mp before
      obtain ⟨apartFirst, apartRest⟩ := List.forall_mem_cons.mp apart
      rw [place]
      split
      · rename_i below
        refine List.pairwise_cons.mpr ⟨?_, before⟩
        intro stored member
        have notLower : span.start.toNat < stored.start.toNat := by
          rcases List.mem_cons.mp member with rfl | later
          · exact below
          · exact Nat.lt_trans below (above stored later).1
        rcases apart stored member with lower | higher
        · exact (Nat.lt_asymm notLower lower.1).elim
        · exact higher
      · rename_i notBelow
        refine List.pairwise_cons.mpr ⟨?_, ih restBefore apartRest⟩
        intro stored member
        rcases List.mem_cons.mp ((place_perm span rest).mem_iff.mp member) with rfl | later
        · rcases apartFirst with lower | higher
          · exact lower
          · exact (notBelow higher.1).elim
        · exact above stored later

namespace Ordered

variable {map : RangeMap α}

theorem empty : (RangeMap.empty : RangeMap α).Ordered :=
  ⟨.nil, by simp [RangeMap.empty]⟩

theorem place (ordered : map.Ordered) {new : Insertion α} (fits : new.Fits)
    (apart : ∀ stored ∈ map.spans, ¬ stored.Overlaps new.span) :
    (⟨RangeMap.place new.span map.spans⟩ : RangeMap α).Ordered := by
  refine ⟨place_before ordered.before ?_, ?_⟩
  · intro stored member
    exact (Span.not_overlaps_iff (ordered.sound stored member) (Insertion.sound_of_fits fits)).mp (apart stored member)
  · intro span member
    rcases List.mem_cons.mp ((place_perm new.span map.spans).mem_iff.mp member) with rfl | stored
    · exact Insertion.sound_of_fits fits
    · exact ordered.sound span stored

theorem removeContaining (ordered : map.Ordered) (address : Address) : (map.removeContaining address).2.Ordered := by
  rw [RangeMap.removeContaining]
  split
  · refine ⟨ordered.before.filter _, ?_⟩
    intro span member
    exact ordered.sound span ((List.mem_filter.mp member).1)
  · exact ordered

/-- Whether a range overlaps, the last one that starts below the probe tells for all. -/
theorem forall_not_overlaps_iff (ordered : map.Ordered) {new : Insertion α} (fits : new.Fits)
    (fresh : ∀ stored ∈ map.spans, stored.start ≠ new.start) :
    (∀ stored ∈ map.spans, ¬ stored.Overlaps new.span) ↔
      ∀ last, map.lastBelow new.probe = some last → last.stop.toNat ≤ new.start.toNat := by
  constructor
  · intro apart last found
    obtain ⟨member, below, -⟩ := ordered.lastBelow_eq_some found
    have clear := apart last member
    rw [new.overlaps_iff fits (fresh last member)] at clear
    exact Nat.le_of_not_lt fun reaches => clear ⟨below, reaches⟩
  · intro clear stored member overlap
    obtain ⟨below, reaches⟩ := (new.overlaps_iff fits (fresh stored member)).mp overlap
    cases found : map.lastBelow new.probe with
    | none =>
        have above := ordered.lastBelow_eq_none found stored member
        omega
    | some last =>
        obtain ⟨lastMember, -, latest⟩ := ordered.lastBelow_eq_some found
        have lastClear := clear last found
        have lastSound := ordered.sound last lastMember
        rcases latest stored member below with rfl | before
        · omega
        · have storedStop := before.2
          omega

theorem insert_eq_ok (ordered : map.Ordered) (new : Insertion α) {added : RangeMap α} :
    map.insert new.start new.size new.value = .ok added ↔ new.Fits ∧
      (∀ stored ∈ map.spans, ¬ stored.Overlaps new.span) ∧ added = ⟨RangeMap.place new.span map.spans⟩ := by
  by_cases fits : new.Fits
  · rw [insert_of_fits map fits]
    cases same : map.startingAt new.start with
    | some stored =>
        have member := List.mem_of_find?_eq_some same
        have sameStart : stored.start = new.start := by simpa using List.find?_some same
        simp only [reduceCtorEq, false_iff]
        rintro ⟨-, apart, -⟩
        exact apart stored member (.inl sameStart)
    | none =>
        rw [ordered.forall_not_overlaps_iff fits (startingAt_eq_none.mp same)]
        cases found : map.lastBelow new.probe with
        | none => simp [fits, eq_comm]
        | some last =>
            by_cases clear : last.stop.toNat ≤ new.start.toNat
            · simp [clear, fits, eq_comm]
            · simp [clear]
  · have refused : map.insert new.start new.size new.value = .error (.overflow new.start new.size) := if_neg fits
    simp [refused, fits]

end Ordered

def insertAll (map : RangeMap α) (news : List (Insertion α)) : Except RangeFault (RangeMap α) :=
  news.foldlM (fun map new => map.insert new.start new.size new.value) map

theorem insertAll_cons_eq_ok {map added : RangeMap α} {new : Insertion α} {news : List (Insertion α)} :
    map.insertAll (new :: news) = .ok added ↔
      ∃ next, map.insert new.start new.size new.value = .ok next ∧ next.insertAll news = .ok added := by
  rw [insertAll, List.foldlM_cons]
  cases map.insert new.start new.size new.value with
  | error fault => simp [bind, Except.bind]
  | ok next => simp [bind, Except.bind, insertAll]

inductive Operation (α : Type) where
  | insert (new : Insertion α)
  | removeContaining (address : Address)

/-- The map after an operation.  A range that is refused leaves the map as it was. -/
def perform (map : RangeMap α) : Operation α → RangeMap α
  | .insert new =>
    match map.insert new.start new.size new.value with
    | .ok added => added
    | .error _ => map
  | .removeContaining address => (map.removeContaining address).2

def run (operations : List (Operation α)) : RangeMap α :=
  operations.foldl perform empty

namespace Ordered

variable {map other added : RangeMap α}

theorem insert (ordered : map.Ordered) {new : Insertion α}
    (inserted : map.insert new.start new.size new.value = .ok added) :
    added.Ordered ∧ added.spans.Perm (new.span :: map.spans) := by
  obtain ⟨fits, apart, rfl⟩ := (ordered.insert_eq_ok new).mp inserted
  exact ⟨ordered.place fits apart, place_perm new.span map.spans⟩

theorem perform (ordered : map.Ordered) (operation : Operation α) : (map.perform operation).Ordered := by
  cases operation with
  | insert new =>
      rw [RangeMap.perform]
      split
      · rename_i inserted
        exact (ordered.insert inserted).1
      · exact ordered
  | removeContaining address => exact ordered.removeContaining address

theorem run (operations : List (Operation α)) : (RangeMap.run operations).Ordered := by
  suffices ∀ map : RangeMap α, map.Ordered → (operations.foldl RangeMap.perform map).Ordered from this _ empty
  induction operations with
  | nil => exact fun map ordered => ordered
  | cons operation operations ih => exact fun map ordered => ih _ (ordered.perform operation)

theorem eq_of_perm (ordered : map.Ordered) (otherOrdered : other.Ordered) (same : map.spans.Perm other.spans) :
    map = other := by
  have spans : map.spans = other.spans := by
    apply same.eq_of_pairwise _ ordered.before otherOrdered.before
    intro first second _ _ before after
    exact (Nat.lt_asymm before.1 after.1).elim
  cases map
  cases other
  exact congrArg RangeMap.mk spans

theorem pairwise_not_overlaps (ordered : map.Ordered) : map.spans.Pairwise fun span other => ¬ span.Overlaps other := by
  apply ordered.before.imp_of_mem
  intro span other member otherMember before
  exact (Span.not_overlaps_iff (ordered.sound span member) (ordered.sound other otherMember)).mpr (.inl before)

theorem insertAll_eq_ok (ordered : map.Ordered) {news : List (Insertion α)} : map.insertAll news = .ok added ↔
    (∀ new ∈ news, new.Fits) ∧
      (map.spans ++ news.map Insertion.span).Pairwise (fun span other => ¬ span.Overlaps other) ∧
      added.Ordered ∧ added.spans.Perm (map.spans ++ news.map Insertion.span) := by
  induction news generalizing map with
  | nil =>
      simp only [insertAll, List.foldlM_nil, List.map_nil, List.append_nil]
      constructor
      · intro same
        obtain rfl : map = added := Except.ok.inj same
        exact ⟨by simp, ordered.pairwise_not_overlaps, ordered, .refl _⟩
      · rintro ⟨-, -, addedOrdered, same⟩
        exact congrArg Except.ok (ordered.eq_of_perm addedOrdered same.symm)
  | cons new news ih =>
      have moved : (map.spans ++ (new :: news).map Insertion.span).Perm
          (new.span :: map.spans ++ news.map Insertion.span) := List.perm_middle
      have apartMoved := moved.pairwise_iff
        (R := fun span other : Span α => ¬ span.Overlaps other) (fun apart overlap => apart overlap.symm)
      rw [insertAll_cons_eq_ok, apartMoved, List.forall_mem_cons]
      constructor
      · rintro ⟨next, inserted, rest⟩
        obtain ⟨nextOrdered, nextSpans⟩ := ordered.insert inserted
        obtain ⟨fits, apart, addedOrdered, same⟩ := (ih nextOrdered).mp rest
        have grown := nextSpans.append_right (news.map Insertion.span)
        refine ⟨⟨((ordered.insert_eq_ok new).mp inserted).1, fits⟩, ?_, addedOrdered, (same.trans grown).trans moved.symm⟩
        exact (grown.pairwise_iff fun apart overlap => apart overlap.symm).mp apart
      · rintro ⟨⟨fits, restFit⟩, apart, addedOrdered, same⟩
        have clear : ∀ stored ∈ map.spans, ¬ stored.Overlaps new.span := by
          intro stored member overlap
          exact (List.pairwise_cons.mp apart).1 stored (List.mem_append_left _ member) overlap.symm
        have inserted := (ordered.insert_eq_ok new).mpr ⟨fits, clear, rfl⟩
        obtain ⟨nextOrdered, nextSpans⟩ := ordered.insert inserted
        have grown := nextSpans.append_right (news.map Insertion.span)
        refine ⟨_, inserted, (ih nextOrdered).mpr ⟨restFit, ?_, addedOrdered, (same.trans moved).trans grown.symm⟩⟩
        exact (grown.pairwise_iff fun apart overlap => apart overlap.symm).mpr apart

theorem insertAll_eq_ok_of_perm (ordered : map.Ordered) {news others : List (Insertion α)} (same : news.Perm others)
    (inserted : map.insertAll news = .ok added) : map.insertAll others = .ok added := by
  obtain ⟨fits, apart, addedOrdered, spans⟩ := ordered.insertAll_eq_ok.mp inserted
  have permuted := (same.map Insertion.span).append_left map.spans
  refine ordered.insertAll_eq_ok.mpr ⟨?_, ?_, addedOrdered, spans.trans permuted⟩
  · intro new member
    exact fits new (same.mem_iff.mpr member)
  · exact (permuted.pairwise_iff fun apart overlap => apart overlap.symm).mp apart

end Ordered

/-- After any operations the stored ranges are in order.  A further range is accepted exactly when its end is an
address and no stored range overlaps it, and then it is the only one that is added.  Whether all ranges of a list are
accepted, and what they add up to, does not depend on the order of the list. -/
theorem run_insert_exact (operations : List (Operation α)) :
    (run operations).Ordered ∧
    (∀ new : Insertion α, (∃ added, (run operations).insert new.start new.size new.value = .ok added) ↔
      new.start.toNat + new.size.toNat < UInt64.size ∧
        ∀ stored ∈ (run operations).spans, ¬ (stored.start = new.start ∨
          (stored.start.toNat < new.start.toNat + new.size.toNat ∧ new.start.toNat < stored.stop.toNat))) ∧
    (∀ (new : Insertion α) (added : RangeMap α),
      (run operations).insert new.start new.size new.value = .ok added →
        added.Ordered ∧ added.spans.Perm (⟨new.start, new.start + new.size, new.value⟩ :: (run operations).spans)) ∧
    (∀ (news others : List (Insertion α)) (added : RangeMap α), news.Perm others →
      ((run operations).insertAll news = .ok added ↔ (run operations).insertAll others = .ok added)) := by
  have ordered := Ordered.run operations
  refine ⟨ordered, ?_, ?_, ?_⟩
  · intro new
    simp only [ordered.insert_eq_ok, exists_and_left, exists_eq, and_true]
    apply and_congr_right
    intro fits
    simp only [Span.Overlaps, Insertion.stop_of_fits fits]
    rfl
  · intro new added inserted
    exact ordered.insert inserted
  · intro news others added same
    exact ⟨ordered.insertAll_eq_ok_of_perm same, ordered.insertAll_eq_ok_of_perm same.symm⟩

end RangeMap

end LaneScope
