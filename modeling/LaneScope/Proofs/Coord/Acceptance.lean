import LaneScope.Coord.Basic

/-!
What filters accept.  A filter accepts itself, and one without open axes accepts nothing else.
-/

namespace LaneScope

namespace Field

variable {width : Nat} {filter candidate : Field width}

@[simp] theorem accepts_self (field : Field width) : field.accepts field = true := by
  simp [accepts]

@[simp] theorem wildcard_accepts (field : Field width) : wildcard.accepts field = true := rfl

theorem eq_of_accepts (defined : filter.isWildcard = false) (accepted : filter.accepts candidate = true) :
    filter = candidate := by
  simpa [accepts, defined] using accepted

end Field

namespace Index3

variable {filter candidate : Index3}

@[simp] theorem accepts_self (index : Index3) : index.accepts index = true := by
  cases index <;> simp [accepts, isInapplicable]

@[simp] theorem wildcard_accepts (index : Index3) : wildcard.accepts index = true := by
  cases index <;> rfl

@[simp] theorem hasWildcard_invalid : invalid.hasWildcard = false := rfl

@[simp] theorem hasWildcard_inapplicable : inapplicable.hasWildcard = false := rfl

@[simp] theorem hasWildcard_ofDim3 (dim : Dim3) : (ofDim3 dim).hasWildcard = false := rfl

theorem eq_of_accepts (defined : filter.hasWildcard = false) (accepted : filter.accepts candidate = true) :
    filter = candidate := by
  cases filter with
  | axes x y z =>
      simp only [hasWildcard, Bool.or_eq_false_iff] at defined
      obtain ⟨⟨definedX, definedY⟩, definedZ⟩ := defined
      cases candidate with
      | axes x' y' z' =>
          simp only [accepts, Bool.and_eq_true] at accepted
          obtain ⟨⟨acceptedX, acceptedY⟩, acceptedZ⟩ := accepted
          rw [Field.eq_of_accepts definedX acceptedX, Field.eq_of_accepts definedY acceptedY,
            Field.eq_of_accepts definedZ acceptedZ]
      | inapplicable => simp [accepts, definedX] at accepted
  | inapplicable =>
      cases candidate with
      | axes x y z => simp [accepts, isInapplicable] at accepted
      | inapplicable => rfl

end Index3

namespace Physical

variable {filter candidate : Physical}

theorem accepts_self (place : Physical) : place.accepts place = true := by
  simp [accepts]

theorem wild_accepts (place : Physical) : accepts {} place = true := rfl

theorem eq_of_accepts (defined : filter.fullyDefined = true) (accepted : filter.accepts candidate = true) :
    filter = candidate := by
  simp only [fullyDefined, Bool.not_eq_true', Bool.or_eq_false_iff] at defined
  obtain ⟨⟨⟨dev, sm⟩, wp⟩, ln⟩ := defined
  simp only [accepts, Bool.and_eq_true] at accepted
  obtain ⟨⟨⟨sameDev, sameSm⟩, sameWp⟩, sameLn⟩ := accepted
  obtain ⟨⟩ := filter
  obtain ⟨⟩ := candidate
  simp only [mk.injEq]
  exact ⟨Field.eq_of_accepts dev sameDev, Field.eq_of_accepts sm sameSm, Field.eq_of_accepts wp sameWp,
    Field.eq_of_accepts ln sameLn⟩

theorem fullyDefined_lane (dev sm wp ln : BitVec 32) : (lane dev sm wp ln).fullyDefined = true := rfl

end Physical

namespace Logical

variable {filter candidate : Logical}

theorem accepts_self (address : Logical) : address.accepts address = true := by
  simp [accepts]

theorem wild_accepts (address : Logical) : accepts {} address = true := by
  simp [accepts]

theorem eq_of_accepts (defined : filter.fullyDefined = true) (accepted : filter.accepts candidate = true) :
    filter = candidate := by
  simp only [fullyDefined, Bool.not_eq_true', Bool.or_eq_false_iff] at defined
  obtain ⟨⟨⟨⟨kernel, grid⟩, cluster⟩, block⟩, thread⟩ := defined
  simp only [accepts, Bool.and_eq_true] at accepted
  obtain ⟨⟨⟨⟨sameKernel, sameGrid⟩, sameCluster⟩, sameBlock⟩, sameThread⟩ := accepted
  obtain ⟨⟩ := filter
  obtain ⟨⟩ := candidate
  simp only [mk.injEq]
  exact ⟨Field.eq_of_accepts kernel sameKernel, Field.eq_of_accepts grid sameGrid,
    Index3.eq_of_accepts cluster sameCluster, Index3.eq_of_accepts block sameBlock,
    Index3.eq_of_accepts thread sameThread⟩

end Logical

namespace Coords

theorem accepts_of_physical (place : Physical) (coords : Coords) :
    accepts { physical := place } coords = place.accepts coords.physical := by
  rw [accepts, Logical.wild_accepts, Bool.and_true]

theorem accepts_of_logical (address : Logical) (coords : Coords) :
    accepts { logical := address } coords = address.accepts coords.logical := by
  rw [accepts, Physical.wild_accepts, Bool.true_and]

end Coords

end LaneScope
