import LaneScope.Proofs.Coord.Order
import LaneScope.Query.CoordSet

/-!
Answers of queries.  A collected answer ascends strictly in the order of its comparator and has the coordinates of the
listing that it was collected from, and this settles it.
-/

namespace LaneScope

variable {listing left right : List Coords} {coords : Coords}

theorem mem_withoutRepeats : coords ∈ withoutRepeats listing ↔ coords ∈ listing := by
  fun_induction withoutRepeats listing with
  | case1 first rest ih =>
      rw [ih, List.mem_cons (b := first) (l := first :: rest)]
      constructor
      · exact .inr
      · rintro (rfl | member)
        · exact List.mem_cons_self
        · exact member
  | case2 first second rest apart ih => rw [List.mem_cons, List.mem_cons, ih]
  | case3 short => rfl

theorem withoutRepeats_ascending {comparator : Comparator}
    (sorted : listing.Pairwise fun left right => (comparator.compare left right).isLE = true) :
    (withoutRepeats listing).Pairwise fun left right => comparator.compare left right = .lt := by
  fun_induction withoutRepeats listing with
  | case1 first rest ih => exact ih (List.pairwise_cons.mp sorted).2
  | case2 first second rest apart ih =>
      obtain ⟨below, sortedRest⟩ := List.pairwise_cons.mp sorted
      have less : comparator.compare first second = .lt := by
        have ordered := below second List.mem_cons_self
        cases decided : comparator.compare first second with
        | lt => rfl
        | eq => exact (apart (Std.LawfulEqCmp.eq_of_compare decided)).elim
        | gt => simp [decided] at ordered
      refine List.pairwise_cons.mpr ⟨?_, ih sortedRest⟩
      intro later member
      rcases List.mem_cons.mp (mem_withoutRepeats.mp member) with rfl | deeper
      · exact less
      · exact Std.TransCmp.lt_of_lt_of_isLE less ((List.pairwise_cons.mp sortedRest).1 later deeper)
  | case3 short single =>
      cases short with
      | nil => exact .nil
      | cons first rest =>
          cases rest with
          | nil => exact List.pairwise_singleton _ _
          | cons second rest => exact (single first second rest rfl).elim

namespace Comparator

variable (comparator : Comparator)

theorem pairwise_sort (listing : List Coords) :
    (comparator.sort listing).Pairwise fun left right => (comparator.compare left right).isLE = true := by
  apply List.pairwise_mergeSort
  · intro left middle right first second
    exact Std.TransCmp.isLE_trans first second
  · intro left right
    rw [Bool.or_eq_true]
    exact comparator.compare_total left right

theorem nodup_of_ascending (ascending : listing.Pairwise fun left right => comparator.compare left right = .lt) :
    listing.Nodup := by
  apply ascending.imp
  rintro coords _ less rfl
  have equal : comparator.compare coords coords = .eq := Std.ReflCmp.compare_self
  rw [equal] at less
  contradiction

/-- There is only one way to list given coordinates in strictly ascending order. -/
theorem eq_of_ascending (leftAscending : left.Pairwise fun left right => comparator.compare left right = .lt)
    (rightAscending : right.Pairwise fun left right => comparator.compare left right = .lt)
    (same : ∀ coords, coords ∈ left ↔ coords ∈ right) : left = right := by
  apply List.Perm.eq_of_pairwise _ leftAscending rightAscending
  · exact (List.perm_ext_iff_of_nodup (comparator.nodup_of_ascending leftAscending)
      (comparator.nodup_of_ascending rightAscending)).mpr same
  · intro first second _ _ less greater
    rw [comparator.compare_swap second first, greater] at less
    contradiction

end Comparator

namespace CoordSet

variable {comparator : Comparator}

theorem mem_collect : coords ∈ (collect comparator listing).coords ↔ coords ∈ listing := by
  rw [collect, List.mem_toArray, mem_withoutRepeats]
  exact List.mem_mergeSort

theorem collect_ascending (comparator : Comparator) (listing : List Coords) :
    (collect comparator listing).coords.toList.Pairwise fun left right => comparator.compare left right = .lt :=
  withoutRepeats_ascending (comparator.pairwise_sort listing)

theorem collect_perm (comparator : Comparator) (distinct : listing.Nodup) :
    (collect comparator listing).coords.toList.Perm listing := by
  apply (List.perm_ext_iff_of_nodup (comparator.nodup_of_ascending (collect_ascending comparator listing))
    distinct).mpr
  intro coords
  rw [Array.mem_toList_iff, mem_collect]

theorem toList_collect_of_ascending
    (ascending : left.Pairwise fun left right => comparator.compare left right = .lt)
    (same : ∀ coords, coords ∈ listing ↔ coords ∈ left) : (collect comparator listing).coords.toList = left := by
  apply comparator.eq_of_ascending (collect_ascending comparator listing) ascending
  intro coords
  rw [Array.mem_toList_iff, mem_collect, same]

theorem first?_collect (member : coords ∈ listing)
    (least : ∀ other ∈ listing, (comparator.compare coords other).isLE = true) :
    (collect comparator listing).first? = some coords := by
  have ascending := collect_ascending comparator listing
  have found : coords ∈ (collect comparator listing).coords.toList :=
    Array.mem_toList_iff.mpr (mem_collect.mpr member)
  rw [first?, ← Array.getElem?_toList]
  cases parts : (collect comparator listing).coords.toList with
  | nil => simp [parts] at found
  | cons head rest =>
      rw [parts] at found ascending
      rcases List.mem_cons.mp found with rfl | later
      · rfl
      · have less := (List.pairwise_cons.mp ascending).1 coords later
        have headMember : head ∈ (collect comparator listing).coords.toList := by
          rw [parts]
          exact List.mem_cons_self
        have ordered := least head (mem_collect.mp (Array.mem_toList_iff.mp headMember))
        rw [comparator.compare_swap head coords, less] at ordered
        contradiction

theorem first?_collect_eq_none : (collect comparator listing).first? = none ↔ listing = [] := by
  rw [first?, Array.getElem?_eq_none_iff, Nat.le_zero, Array.size_eq_zero_iff, Array.eq_empty_iff_forall_not_mem,
    List.eq_nil_iff_forall_not_mem]
  simp only [mem_collect]

theorem least_of_first?_collect (found : (collect comparator listing).first? = some coords) :
    coords ∈ listing ∧ ∀ other ∈ listing, other ≠ coords → comparator.compare coords other = .lt := by
  have ascending := collect_ascending comparator listing
  rw [first?, ← Array.getElem?_toList, ← List.head?_eq_getElem?] at found
  obtain ⟨rest, parts⟩ := List.head?_eq_some_iff.mp found
  have mem_iff (other : Coords) : other ∈ listing ↔ other = coords ∨ other ∈ rest := by
    rw [← List.mem_cons, ← parts]
    exact (Array.mem_toList_iff.trans mem_collect).symm
  rw [parts] at ascending
  refine ⟨(mem_iff coords).mpr (.inl rfl), ?_⟩
  intro other member apart
  rcases (mem_iff other).mp member with rfl | later
  · exact (apart rfl).elim
  · exact (List.pairwise_cons.mp ascending).1 other later

end CoordSet

end LaneScope
