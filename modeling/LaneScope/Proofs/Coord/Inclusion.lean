import Mathlib.Tactic.Choose
import LaneScope.Proofs.Coord.Projection

/-!
Filters by what they accept.  A coordinate is fully defined when nothing in it is open.  Main statement: one filter
accepts another exactly when it accepts every fully defined coordinate that the other accepts, so acceptance is a
partial order of filters, with the open coordinate above all.
-/

namespace LaneScope

structure Filtering {Content : Type} (accepts : Content → Content → Bool) (defined : Content → Bool) : Prop where
  trans : ∀ {outer middle inner}, accepts outer middle = true → accepts middle inner = true →
    accepts outer inner = true
  antisymm : ∀ {left right}, accepts left right = true → accepts right left = true → left = right
  inhabited : ∀ filter, ∃ content, defined content = true ∧ accepts filter content = true
  /-- What a filter does not take in shows on defined contents. -/
  separated : ∀ {filter candidate},
    (∀ content, defined content = true → accepts candidate content = true → accepts filter content = true) →
      accepts filter candidate = true

namespace Field

variable {width : Nat} {filter candidate : Field width}

theorem isWildcard_of_accepts (accepted : filter.accepts candidate = true) (opened : candidate.isWildcard = true) :
    filter.isWildcard = true := by
  cases closed : filter.isWildcard with
  | true => rfl
  | false =>
      rw [← eq_of_accepts closed accepted, closed] at opened
      contradiction

theorem accepts_of_isWildcard (opened : filter.isWildcard = true) (candidate : Field width) :
    filter.accepts candidate = true := by
  simp [accepts, opened]

theorem eq_of_isWildcard (opened : filter.isWildcard = true) (candidateOpened : candidate.isWildcard = true) :
    filter = candidate := by
  cases filter <;> cases candidate <;> simp_all [isWildcard]

theorem filtering (width : Nat) : Filtering (@accepts width) fun field => !field.isWildcard where
  trans {outer middle inner} first second := by
    cases closed : outer.isWildcard with
    | true => exact accepts_of_isWildcard closed inner
    | false => rwa [eq_of_accepts closed first]
  antisymm {left right} forth back := by
    cases closed : left.isWildcard with
    | true => exact eq_of_isWildcard closed (isWildcard_of_accepts back closed)
    | false => exact eq_of_accepts closed forth
  inhabited filter := by
    cases filter with
    | value word => exact ⟨value word, rfl, accepts_self _⟩
    | wildcard => exact ⟨invalid, rfl, rfl⟩
    | invalid => exact ⟨invalid, rfl, accepts_self _⟩
  separated {filter candidate} included := by
    cases candidate with
    | value word => exact included (value word) rfl (accepts_self _)
    | invalid => exact included invalid rfl (accepts_self _)
    | wildcard =>
        -- Two defined contents are enough to tell a closed filter from the wildcard.
        have marker := included invalid rfl rfl
        have zero := included (value 0) rfl rfl
        cases filter <;> simp_all [accepts, isWildcard]

end Field

namespace Index3

variable {filter candidate outer middle inner left right : Index3}

theorem accepts_trans (first : outer.accepts middle = true) (second : middle.accepts inner = true) :
    outer.accepts inner = true := by
  cases outer with
  | inapplicable =>
      cases middle with
      | inapplicable => exact second
      | axes x y z => simp [accepts, isInapplicable] at first
  | axes x y z =>
      cases middle with
      | inapplicable =>
          cases inner with
          | inapplicable => exact first
          | axes x y z => simp [accepts, isInapplicable] at second
      | axes x' y' z' =>
          simp only [accepts, Bool.and_eq_true] at first
          obtain ⟨⟨firstX, firstY⟩, firstZ⟩ := first
          cases inner with
          | inapplicable =>
              simp only [accepts, Bool.and_eq_true] at second ⊢
              obtain ⟨⟨openX, openY⟩, openZ⟩ := second
              exact ⟨⟨Field.isWildcard_of_accepts firstX openX, Field.isWildcard_of_accepts firstY openY⟩,
                Field.isWildcard_of_accepts firstZ openZ⟩
          | axes x'' y'' z'' =>
              simp only [accepts, Bool.and_eq_true] at second ⊢
              obtain ⟨⟨secondX, secondY⟩, secondZ⟩ := second
              exact ⟨⟨(Field.filtering 32).trans firstX secondX, (Field.filtering 32).trans firstY secondY⟩,
                (Field.filtering 32).trans firstZ secondZ⟩

theorem eq_of_accepts_of_accepts (forth : left.accepts right = true) (back : right.accepts left = true) :
    left = right := by
  cases left with
  | inapplicable =>
      cases right with
      | inapplicable => rfl
      | axes x y z => simp [accepts, isInapplicable] at forth
  | axes x y z =>
      cases right with
      | inapplicable => simp [accepts, isInapplicable] at back
      | axes x' y' z' =>
          simp only [accepts, Bool.and_eq_true] at forth back
          obtain ⟨⟨forthX, forthY⟩, forthZ⟩ := forth
          obtain ⟨⟨backX, backY⟩, backZ⟩ := back
          rw [(Field.filtering 32).antisymm forthX backX, (Field.filtering 32).antisymm forthY backY,
            (Field.filtering 32).antisymm forthZ backZ]

theorem exists_accepted (filter : Index3) : ∃ content, (!content.hasWildcard) = true ∧ filter.accepts content = true := by
  cases filter with
  | inapplicable => exact ⟨inapplicable, rfl, rfl⟩
  | axes x y z =>
      obtain ⟨x', definedX, acceptedX⟩ := (Field.filtering 32).inhabited x
      obtain ⟨y', definedY, acceptedY⟩ := (Field.filtering 32).inhabited y
      obtain ⟨z', definedZ, acceptedZ⟩ := (Field.filtering 32).inhabited z
      refine ⟨axes x' y' z', ?_, ?_⟩
      · simp_all [hasWildcard]
      · simp [accepts, acceptedX, acceptedY, acceptedZ]

theorem accepts_of_included
    (included : ∀ content, (!content.hasWildcard) = true → candidate.accepts content = true →
      filter.accepts content = true) : filter.accepts candidate = true := by
  cases candidate with
  | inapplicable => exact included inapplicable rfl rfl
  | axes x y z =>
      obtain ⟨x', definedX, acceptedX⟩ := (Field.filtering 32).inhabited x
      obtain ⟨y', definedY, acceptedY⟩ := (Field.filtering 32).inhabited y
      obtain ⟨z', definedZ, acceptedZ⟩ := (Field.filtering 32).inhabited z
      have passes {x' y' z' : Field 32} (definedX : (!x'.isWildcard) = true) (definedY : (!y'.isWildcard) = true)
          (definedZ : (!z'.isWildcard) = true) (acceptedX : x.accepts x' = true) (acceptedY : y.accepts y' = true)
          (acceptedZ : z.accepts z' = true) : filter.accepts (axes x' y' z') = true := by
        apply included
        · simp_all [hasWildcard]
        · simp [accepts, acceptedX, acceptedY, acceptedZ]
      cases filter with
      | inapplicable =>
          have passed := passes definedX definedY definedZ acceptedX acceptedY acceptedZ
          simp [accepts, isInapplicable] at passed
      | axes fx fy fz =>
          simp only [accepts, Bool.and_eq_true] at passes ⊢
          refine ⟨⟨?_, ?_⟩, ?_⟩
          · apply (Field.filtering 32).separated
            intro content defined accepted
            exact (passes defined definedY definedZ accepted acceptedY acceptedZ).1.1
          · apply (Field.filtering 32).separated
            intro content defined accepted
            exact (passes definedX defined definedZ acceptedX accepted acceptedZ).1.2
          · apply (Field.filtering 32).separated
            intro content defined accepted
            exact (passes definedX definedY defined acceptedX acceptedY accepted).2

theorem filtering : Filtering accepts fun index => !index.hasWildcard where
  trans := accepts_trans
  antisymm := eq_of_accepts_of_accepts
  inhabited := exists_accepted
  separated := accepts_of_included

end Index3

namespace Axis

def accepts : (axis : Axis) → axis.Content → axis.Content → Bool
  | .dev | .sm | .wp | .ln | .kernel | .grid => Field.accepts
  | .cluster | .block | .thread => Index3.accepts

def defines : (axis : Axis) → axis.Content → Bool
  | .dev | .sm | .wp | .ln | .kernel | .grid => fun field => !field.isWildcard
  | .cluster | .block | .thread => fun index => !index.hasWildcard

theorem filtering (axis : Axis) : Filtering axis.accepts axis.defines := by
  cases axis with
  | dev | sm | wp | ln => exact Field.filtering 32
  | kernel | grid => exact Field.filtering 64
  | cluster | block | thread => exact Index3.filtering

end Axis

namespace Coords

variable {filter candidate coords : Coords}

def fullyDefined (coords : Coords) : Bool :=
  coords.physical.fullyDefined && coords.logical.fullyDefined

theorem fullyDefined_iff : coords.fullyDefined = true ↔ ∀ axis : Axis, axis.defines (coords.get axis) = true := by
  simp only [fullyDefined, Physical.fullyDefined, Logical.fullyDefined, Bool.not_or, Bool.and_eq_true]
  constructor
  · rintro ⟨⟨⟨⟨dev, sm⟩, wp⟩, ln⟩, ⟨⟨⟨kernel, grid⟩, cluster⟩, block⟩, thread⟩ axis
    cases axis <;> assumption
  · intro defined
    exact ⟨⟨⟨⟨defined .dev, defined .sm⟩, defined .wp⟩, defined .ln⟩,
      ⟨⟨⟨defined .kernel, defined .grid⟩, defined .cluster⟩, defined .block⟩, defined .thread⟩

theorem accepts_iff_get : filter.accepts candidate = true ↔
    ∀ axis : Axis, axis.accepts (filter.get axis) (candidate.get axis) = true := by
  have same (axis : Axis) : filter.acceptsOn candidate axis = axis.accepts (filter.get axis) (candidate.get axis) := by
    cases axis <;> rfl
  simp only [accepts_iff, same]

theorem exists_accepted (filter : Coords) :
    ∃ coords : Coords, coords.fullyDefined = true ∧ filter.accepts coords = true := by
  choose content defined accepted using fun axis : Axis => axis.filtering.inhabited (filter.get axis)
  let coords : Coords :=
    ⟨⟨content .dev, content .sm, content .wp, content .ln⟩,
      ⟨content .kernel, content .grid, content .cluster, content .block, content .thread⟩⟩
  have get_eq (axis : Axis) : coords.get axis = content axis := by
    cases axis <;> rfl
  refine ⟨coords, fullyDefined_iff.mpr ?_, accepts_iff_get.mpr ?_⟩
  · intro axis
    rw [get_eq]
    exact defined axis
  · intro axis
    rw [get_eq]
    exact accepted axis

theorem forall_get_set (property : (axis : Axis) → axis.Content → Prop) {axis : Axis} {content : axis.Content}
    (here : property axis content) (elsewhere : ∀ other, property other (coords.get other)) :
    ∀ other, property other ((coords.set axis content).get other) := by
  intro other
  by_cases same : axis = other
  · subst same
    rwa [get_set_self]
  · rw [get_set_of_ne coords same]
    exact elsewhere other

theorem accepts_trans {outer middle inner : Coords} (first : outer.accepts middle = true)
    (second : middle.accepts inner = true) : outer.accepts inner = true := by
  rw [accepts_iff_get] at first second ⊢
  intro axis
  exact axis.filtering.trans (first axis) (second axis)

theorem eq_of_accepts_of_accepts {left right : Coords} (forth : left.accepts right = true)
    (back : right.accepts left = true) : left = right := by
  rw [accepts_iff_get] at forth back
  apply eq_of_get_eq
  intro axis
  exact axis.filtering.antisymm (forth axis) (back axis)

/-- A filter that does not take in a candidate shows it on one axis: with a content of that axis put into any defined
coordinate that the candidate accepts. -/
theorem accepts_of_included
    (included : ∀ coords, coords.fullyDefined = true → candidate.accepts coords = true →
      filter.accepts coords = true) : filter.accepts candidate = true := by
  obtain ⟨coords, defined, accepted⟩ := candidate.exists_accepted
  rw [fullyDefined_iff] at defined
  rw [accepts_iff_get] at accepted
  refine accepts_iff_get.mpr fun axis => axis.filtering.separated fun content contentDefined contentAccepted => ?_
  have passed : filter.accepts (coords.set axis content) = true := by
    apply included
    · exact fullyDefined_iff.mpr
        (forall_get_set (fun axis content => axis.defines content = true) contentDefined defined)
    · exact accepts_iff_get.mpr
        (forall_get_set (fun axis content => axis.accepts (candidate.get axis) content = true) contentAccepted accepted)
  simpa only [get_set_self] using accepts_iff_get.mp passed axis

/-- Acceptance is inclusion of what filters accept. -/
theorem accepts_inclusion :
    (∀ filter candidate : Coords, filter.accepts candidate = true ↔
      ∀ coords, coords.fullyDefined = true → candidate.accepts coords = true → filter.accepts coords = true) ∧
    (∀ coords : Coords, coords.accepts coords = true) ∧
    (∀ outer middle inner : Coords, outer.accepts middle = true → middle.accepts inner = true →
      outer.accepts inner = true) ∧
    (∀ left right : Coords, left.accepts right = true → right.accepts left = true → left = right) ∧
    ∀ coords, wild.accepts coords = true := by
  refine ⟨?_, accepts_self, ?_, ?_, ?_⟩
  · intro filter candidate
    exact ⟨fun accepted _ _ passed => accepts_trans accepted passed, accepts_of_included⟩
  · intro outer middle inner first second
    exact accepts_trans first second
  · intro left right forth back
    exact eq_of_accepts_of_accepts forth back
  · intro coords
    rw [accepts, wild, Physical.wild_accepts, Logical.wild_accepts, Bool.and_true]

end Coords

end LaneScope
