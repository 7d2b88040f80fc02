import LaneScope.Proofs.RangeMap.Insertion

/-!
Range maps as functions of addresses.  The last range that starts at or below an address is the only one that can hold
it.  Main statement: after any operations a look-up gives the value of the one range that holds the address, a removal
takes away the addresses of that range, an insertion adds those of the new one, and no other address is touched.
-/

namespace LaneScope

variable {α : Type}

def Span.Holds (span : Span α) (address : Address) : Prop :=
  span.start.toNat ≤ address.toNat ∧ address.toNat < span.stop.toNat

instance (span : Span α) (address : Address) : Decidable (span.Holds address) :=
  inferInstanceAs (Decidable (_ ∧ _))

theorem Span.Before.not_holds {span other : Span α} {address : Address} (before : span.Before other)
    (holds : other.Holds address) : ¬ span.Holds address := by
  intro alsoHolds
  have gap := before.2
  have := holds.1
  have := alsoHolds.2
  omega

namespace RangeMap

theorem Insertion.holds_iff {new : Insertion α} (fits : new.Fits) {address : Address} : new.span.Holds address ↔
    new.start.toNat ≤ address.toNat ∧ address.toNat < new.start.toNat + new.size.toNat := by
  rw [Span.Holds, stop_of_fits fits]
  rfl

theorem fst_removeContaining (map : RangeMap α) (address : Address) :
    (map.removeContaining address).1 = map.get? address := by
  rw [removeContaining, get?]
  cases map.find? address <;> rfl

namespace Ordered

variable {map added : RangeMap α} {span other : Span α} {address : Address} {value : α} {new : Insertion α}

theorem find?_eq_some (ordered : map.Ordered) :
    map.find? address = some span ↔ span ∈ map.spans ∧ span.Holds address := by
  rw [find?]
  cases found : map.lastBelow (address.toNat + 1) with
  | none =>
      simp only [reduceCtorEq, false_iff]
      rintro ⟨member, holds⟩
      have above := ordered.lastBelow_eq_none found span member
      have := holds.1
      omega
  | some last =>
      obtain ⟨lastMember, lastBelow, latest⟩ := ordered.lastBelow_eq_some found
      simp only [Option.ite_none_right_eq_some, Option.some.injEq]
      constructor
      · rintro ⟨inside, rfl⟩
        exact ⟨lastMember, Nat.le_of_lt_succ lastBelow, inside⟩
      · rintro ⟨member, holds⟩
        rcases latest span member (Nat.lt_succ_of_le holds.1) with rfl | before
        · exact ⟨holds.2, rfl⟩
        · -- A range before the last one ends where that one starts, which is too early.
          have := before.2
          have := holds.2
          omega

theorem find?_eq_none (ordered : map.Ordered) :
    map.find? address = none ↔ ∀ span ∈ map.spans, ¬ span.Holds address := by
  rw [Option.eq_none_iff_forall_ne_some]
  simp only [ne_eq, ordered.find?_eq_some, not_and]

theorem eq_of_holds (ordered : map.Ordered) (member : span ∈ map.spans) (otherMember : other ∈ map.spans)
    (holds : span.Holds address) (otherHolds : other.Holds address) : span = other := by
  have found := ordered.find?_eq_some.mpr ⟨member, holds⟩
  have alsoFound := ordered.find?_eq_some.mpr ⟨otherMember, otherHolds⟩
  exact Option.some.inj (found.symm.trans alsoFound)

theorem get?_eq_some (ordered : map.Ordered) :
    map.get? address = some value ↔ ∃ span ∈ map.spans, span.Holds address ∧ span.value = value := by
  simp only [get?, Option.map_eq_some_iff, ordered.find?_eq_some, and_assoc]

theorem get?_eq_none (ordered : map.Ordered) :
    map.get? address = none ↔ ∀ span ∈ map.spans, ¬ span.Holds address := by
  rw [get?, Option.map_eq_none_iff, ordered.find?_eq_none]

/-- No range comes up twice among those that hold an address, and no two ranges do. -/
theorem filter_holds_eq_singleton (ordered : map.Ordered) :
    map.spans.filter (fun span => span.Holds address) = [span] ↔ span ∈ map.spans ∧ span.Holds address := by
  have mem_iff (other : Span α) : other ∈ map.spans.filter (fun span => span.Holds address) ↔
      other ∈ map.spans ∧ other.Holds address := by
    rw [List.mem_filter, decide_eq_true_eq]
  constructor
  · intro single
    rw [← mem_iff, single]
    exact List.mem_singleton.mpr rfl
  · intro holding
    have member := (mem_iff span).mpr holding
    have ascending := ordered.before.filter fun span => span.Holds address
    cases holders : map.spans.filter fun span => span.Holds address with
    | nil => simp [holders] at member
    | cons first rest =>
        rw [holders] at ascending member mem_iff
        obtain ⟨firstMember, firstHolds⟩ := (mem_iff first).mp List.mem_cons_self
        obtain rfl := ordered.eq_of_holds firstMember holding.1 firstHolds holding.2
        cases rest with
        | nil => rfl
        | cons second rest =>
            have before := (List.pairwise_cons.mp ascending).1 second List.mem_cons_self
            have secondHolds := ((mem_iff second).mp (List.mem_cons_of_mem _ List.mem_cons_self)).2
            exact (before.not_holds secondHolds firstHolds).elim

theorem start_injective (ordered : map.Ordered) (member : span ∈ map.spans) (otherMember : other ∈ map.spans)
    (same : span.start = other.start) : span = other := by
  cases found : map.lastBelow (span.start.toNat + 1) with
  | none =>
      have above := ordered.lastBelow_eq_none found span member
      omega
  | some last =>
      obtain ⟨-, lastBelow, latest⟩ := ordered.lastBelow_eq_some found
      have isLast {stored : Span α} (storedMember : stored ∈ map.spans) (sameStart : stored.start = span.start) :
          stored = last := by
        rcases latest stored storedMember (by rw [sameStart]; exact Nat.lt_succ_self _) with rfl | before
        · rfl
        · have := before.1
          rw [sameStart] at this
          omega
      exact (isLast member rfl).trans (isLast otherMember same.symm).symm

theorem removeContaining_of_holds (ordered : map.Ordered) (member : span ∈ map.spans) (holds : span.Holds address) :
    map.removeContaining address =
      (some span.value, ⟨map.spans.filter fun stored => stored.start != span.start⟩) := by
  rw [RangeMap.removeContaining, ordered.find?_eq_some.mpr ⟨member, holds⟩]

theorem removeContaining_of_not_holds (ordered : map.Ordered) (free : ∀ span ∈ map.spans, ¬ span.Holds address) :
    map.removeContaining address = (none, map) := by
  rw [RangeMap.removeContaining, ordered.find?_eq_none.mpr free]

theorem mem_removeContaining (ordered : map.Ordered) (member : span ∈ map.spans) (holds : span.Holds address) :
    other ∈ (map.removeContaining address).2.spans ↔ other ∈ map.spans ∧ other ≠ span := by
  rw [ordered.removeContaining_of_holds member holds, List.mem_filter, bne_iff_ne]
  apply and_congr_right
  intro otherMember
  constructor
  · rintro different rfl
    exact different rfl
  · intro different same
    exact different (ordered.start_injective otherMember member same)

/-- Only the addresses of the range that was removed lose their value. -/
theorem get?_removeContaining (ordered : map.Ordered) (member : span ∈ map.spans) (holds : span.Holds address)
    (asked : Address) :
    (map.removeContaining address).2.get? asked = if span.Holds asked then none else map.get? asked := by
  have removed := ordered.removeContaining address
  split
  · rename_i inside
    rw [removed.get?_eq_none]
    intro other left alsoInside
    obtain ⟨otherMember, different⟩ := (ordered.mem_removeContaining member holds).mp left
    exact different (ordered.eq_of_holds otherMember member alsoInside inside)
  · rename_i outside
    apply Option.ext
    intro value
    rw [removed.get?_eq_some, ordered.get?_eq_some]
    apply exists_congr
    intro other
    rw [ordered.mem_removeContaining member holds, and_assoc, and_congr_right_iff]
    intro _
    rw [and_iff_right_iff_imp]
    rintro ⟨otherHolds, -⟩ rfl
    exact outside otherHolds

theorem get?_insert (ordered : map.Ordered) (inserted : map.insert new.start new.size new.value = .ok added)
    (asked : Address) : added.get? asked = if new.span.Holds asked then some new.value else map.get? asked := by
  obtain ⟨addedOrdered, spans⟩ := ordered.insert inserted
  apply Option.ext
  intro value
  simp only [addedOrdered.get?_eq_some, spans.mem_iff, List.mem_cons]
  split
  · rename_i inside
    have newMember : new.span ∈ added.spans := spans.mem_iff.mpr List.mem_cons_self
    constructor
    · rintro ⟨span, stored, holds, rfl⟩
      have member : span ∈ added.spans := spans.mem_iff.mpr (List.mem_cons.mpr stored)
      rw [addedOrdered.eq_of_holds member newMember holds inside]
      rfl
    · intro same
      exact ⟨new.span, .inl rfl, inside, Option.some.inj same⟩
  · rename_i outside
    rw [ordered.get?_eq_some]
    apply exists_congr
    intro span
    rw [or_and_right, or_iff_right_iff_imp]
    rintro ⟨rfl, holds, -⟩
    exact (outside holds).elim

theorem get?_eq_none_of_insert (ordered : map.Ordered) (inserted : map.insert new.start new.size new.value = .ok added)
    (inside : new.span.Holds address) : map.get? address = none := by
  obtain ⟨addedOrdered, spans⟩ := ordered.insert inserted
  rw [ordered.get?_eq_none]
  intro stored member holds
  obtain ⟨-, apart, -⟩ := (ordered.insert_eq_ok new).mp inserted
  have storedMember : stored ∈ added.spans := spans.mem_iff.mpr (List.mem_cons_of_mem _ member)
  have newMember : new.span ∈ added.spans := spans.mem_iff.mpr List.mem_cons_self
  apply apart stored member
  rw [addedOrdered.eq_of_holds storedMember newMember holds inside]
  exact .inl rfl

/-- A range that holds an address can be removed by it, and then nothing of it is left. -/
theorem removeContaining_insert (ordered : map.Ordered)
    (inserted : map.insert new.start new.size new.value = .ok added) (inside : new.span.Holds address) :
    added.removeContaining address = (some new.value, map) := by
  obtain ⟨addedOrdered, spans⟩ := ordered.insert inserted
  obtain ⟨-, apart, -⟩ := (ordered.insert_eq_ok new).mp inserted
  have newMember : new.span ∈ added.spans := spans.mem_iff.mpr List.mem_cons_self
  have removed := addedOrdered.removeContaining_of_holds newMember inside
  have others : (new.span :: map.spans).filter (fun stored => stored.start != new.span.start) = map.spans := by
    rw [List.filter_cons_of_neg (by simp), List.filter_eq_self]
    intro stored member
    rw [bne_iff_ne]
    exact fun same => apart stored member (.inl same)
  have left : (added.removeContaining address).2 = map := by
    apply (addedOrdered.removeContaining address).eq_of_perm ordered
    rw [removed]
    exact others ▸ spans.filter _
  have given : (added.removeContaining address).1 = some new.value := by
    rw [removed]
    rfl
  exact Prod.ext given left

end Ordered

structure Covers (map : RangeMap α) : Prop where
  get?_eq_some : ∀ address value, map.get? address = some value ↔ ∃ span,
    map.spans.filter (fun span => span.Holds address) = [span] ∧ span.start.toNat < span.stop.toNat ∧ span.value = value
  get?_eq_none : ∀ address, map.get? address = none ↔ ∀ span ∈ map.spans, ¬ span.Holds address
  /-- A range stops at an address, so the last address lies beyond every range. -/
  get?_last : map.get? (BitVec.allOnes 64) = none
  removed : ∀ address, (map.removeContaining address).1 = map.get? address
  removes : ∀ address, ∀ span ∈ map.spans, span.Holds address → ∀ asked,
    (map.removeContaining address).2.get? asked = if span.Holds asked then none else map.get? asked
  keeps : ∀ address, (∀ span ∈ map.spans, ¬ span.Holds address) → (map.removeContaining address).2 = map
  inserts : ∀ (new : Insertion α) added, map.insert new.start new.size new.value = .ok added → ∀ asked,
    if new.start.toNat ≤ asked.toNat ∧ asked.toNat < new.start.toNat + new.size.toNat then
      map.get? asked = none ∧ added.get? asked = some new.value
    else added.get? asked = map.get? asked
  restores : ∀ (new : Insertion α) added, map.insert new.start new.size new.value = .ok added → ∀ address,
    new.start.toNat ≤ address.toNat → address.toNat < new.start.toNat + new.size.toNat →
      added.removeContaining address = (some new.value, map)

theorem run_covers (operations : List (Operation α)) : (run operations).Covers := by
  have ordered := Ordered.run operations
  have fits {new : Insertion α} {added : RangeMap α}
      (inserted : (run operations).insert new.start new.size new.value = .ok added) : new.Fits :=
    ((ordered.insert_eq_ok new).mp inserted).1
  refine ⟨?_, fun address => ordered.get?_eq_none, ?_, fst_removeContaining _, ?_, ?_, ?_, ?_⟩
  · intro address value
    simp only [ordered.get?_eq_some, ordered.filter_holds_eq_singleton, and_assoc]
    apply exists_congr
    intro span
    constructor
    · rintro ⟨member, holds, same⟩
      exact ⟨member, holds, Nat.lt_of_le_of_lt holds.1 holds.2, same⟩
    · rintro ⟨member, holds, -, same⟩
      exact ⟨member, holds, same⟩
  · rw [ordered.get?_eq_none]
    intro span _ holds
    have stop := span.stop.isLt
    have beyond := holds.2
    rw [BitVec.toNat_allOnes] at beyond
    omega
  · intro address span member holds asked
    exact ordered.get?_removeContaining member holds asked
  · intro address free
    rw [ordered.removeContaining_of_not_holds free]
  · intro new added inserted asked
    simp only [← Insertion.holds_iff (fits inserted), ordered.get?_insert inserted asked]
    split
    · rename_i inside
      exact ⟨ordered.get?_eq_none_of_insert inserted inside, rfl⟩
    · rfl
  · intro new added inserted address above below
    exact ordered.removeContaining_insert inserted ((Insertion.holds_iff (fits inserted)).mpr ⟨above, below⟩)

/-- Two ranges with a gap between them, which a third one was too wide for. -/
def parted : List (Operation String) :=
  [.insert ⟨0x30, 0x10, "high"⟩, .insert ⟨0x10, 0x10, "low"⟩, .insert ⟨0x20, 0x11, "wide"⟩]

/-- A range that fits is accepted between the two, and an address in its middle removes it again. -/
theorem parted_covers : (run parted).Covers ∧ ∃ added, (run parted).insert 0x20 0x10 "middle" = .ok added ∧
    (run parted).get? 0x2f = none ∧ added.get? 0x2f = some "middle" ∧ added.get? 0x30 = (run parted).get? 0x30 ∧
    added.removeContaining 0x28 = (some "middle", run parted) := by
  have covers := run_covers parted
  obtain ⟨added, accepted⟩ : ∃ added, (run parted).insert 0x20 0x10 "middle" = .ok added := ⟨_, by rfl⟩
  have last := covers.inserts ⟨0x20, 0x10, "middle"⟩ added accepted 0x2f
  have beyond := covers.inserts ⟨0x20, 0x10, "middle"⟩ added accepted 0x30
  rw [if_pos (by decide)] at last
  rw [if_neg (by decide)] at beyond
  have emptied := covers.restores ⟨0x20, 0x10, "middle"⟩ added accepted 0x28 (by decide) (by decide)
  exact ⟨covers, added, accepted, last.1, last.2, beyond, emptied⟩

end RangeMap

end LaneScope
