import Mathlib.Algebra.Group.Nat.Defs
import LaneScope.Coord.Comparator

/-!
The order of a comparator.  `Comparator.tuple` puts a coordinate as a list of numbers: its distances from the origin,
then the contents of its axes.  Comparing coordinates is comparing these lists lexicographically, and the lists tell
all coordinates apart, so every comparator is a linear order.
-/

namespace LaneScope

def Field.rank {width : Nat} : Field width → Nat
  | value word => word.toNat
  | wildcard => 2 ^ width
  | invalid => 2 ^ width + 1

/-- An inapplicable index ranks behind every other one on all its components. -/
def Index3.ranks : Index3 → List Nat
  | axes x y z => [x.rank, y.rank, z.rank]
  | inapplicable => [2 ^ 32 + 2, 2 ^ 32 + 2, 2 ^ 32 + 2]

def Physical.ranks (address : Physical) : List Nat :=
  [address.dev.rank, address.sm.rank, address.wp.rank, address.ln.rank]

def Logical.ranks (address : Logical) : List Nat :=
  [address.kernel.rank, address.grid.rank] ++ address.cluster.ranks ++ address.block.ranks ++
    address.thread.ranks

def distance (origin place : Nat) : Nat :=
  ((place : Int) - origin).natAbs

def Field.distances {width : Nat} (origin field : Field width) : List Nat :=
  if origin = wildcard then [] else [distance origin.position field.position]

def Index3.distances (origin index : Index3) : List Nat :=
  if origin.hasWildcard then []
  else
    [distance origin.positions.1 index.positions.1, distance origin.positions.2.1 index.positions.2.1,
      distance origin.positions.2.2 index.positions.2.2]

def Physical.distances (origin address : Physical) : List Nat :=
  origin.dev.distances address.dev ++ origin.sm.distances address.sm ++ origin.wp.distances address.wp ++
    origin.ln.distances address.ln

def Logical.distances (origin address : Logical) : List Nat :=
  origin.kernel.distances address.kernel ++ origin.grid.distances address.grid ++
    origin.block.distances address.block ++ origin.thread.distances address.thread

namespace Comparator

def distances (comparator : Comparator) (coords : Coords) : List Nat :=
  match comparator.origin, comparator.addressing with
  | none, _ => []
  | some origin, .logical => origin.logical.distances coords.logical
  | some origin, .physical => origin.physical.distances coords.physical

def tuple (comparator : Comparator) (coords : Coords) : List Nat :=
  match comparator.addressing with
  | .logical => comparator.distances coords ++ coords.logical.ranks ++ coords.physical.ranks
  | .physical => comparator.distances coords ++ coords.physical.ranks ++ coords.logical.ranks

end Comparator

theorem compareLex_append {left left' right right' : List Nat} (length : left.length = right.length) :
    List.compareLex compare (left ++ left') (right ++ right') =
      (List.compareLex compare left right).then (List.compareLex compare left' right') := by
  induction left generalizing right with
  | nil =>
      cases right with
      | nil => simp [List.compareLex_nil_nil]
      | cons second rest => simp at length
  | cons first rest ih =>
      cases right with
      | nil => simp at length
      | cons second others =>
          simp only [List.length_cons, Nat.add_right_cancel_iff] at length
          simp only [List.cons_append, List.compareLex_cons_cons, ih length, Ordering.then_assoc]

theorem compareLex_singleton (left right : Nat) :
    List.compareLex compare [left] [right] = compare left right := by
  simp [List.compareLex_cons_cons, List.compareLex_nil_nil]

theorem compareLex_three (x y z x' y' z' : Nat) :
    List.compareLex compare [x, y, z] [x', y', z'] =
      (compare x x').then ((compare y y').then (compare z z')) := by
  simp [List.compareLex_cons_cons, List.compareLex_nil_nil]

theorem compareLex_eq_lt {left right : List Nat} : List.compareLex compare left right = .lt ↔ left < right := by
  induction left generalizing right with
  | nil => cases right <;> simp [List.compareLex_nil_nil, List.compareLex_nil_cons]
  | cons first rest ih =>
      cases right with
      | nil => simp [List.compareLex_cons_nil]
      | cons second others =>
          rw [List.compareLex_cons_cons, Ordering.then_eq_lt, Nat.compare_eq_lt, Nat.compare_eq_eq, ih,
            List.cons_lt_cons_iff]

namespace Field

variable {width : Nat}

theorem rank_lt (field : Field width) : field.rank < 2 ^ width + 2 := by
  cases field with
  | value word =>
      have bound := word.isLt
      simp only [rank]
      omega
  | wildcard => simp [rank]
  | invalid => simp [rank]

theorem order_eq_compare_rank (left right : Field width) : left.order right = compare left.rank right.rank := by
  cases left with
  | value word =>
      have bound := word.isLt
      cases right with
      | value other => rfl
      | wildcard => exact (Nat.compare_eq_lt.mpr bound).symm
      | invalid => exact (Nat.compare_eq_lt.mpr (Nat.lt_succ_of_lt bound)).symm
  | wildcard =>
      cases right with
      | value other => exact (Nat.compare_eq_gt.mpr other.isLt).symm
      | wildcard => simp [order]
      | invalid => exact (Nat.compare_eq_lt.mpr (Nat.lt_succ_self _)).symm
  | invalid =>
      cases right with
      | value other => exact (Nat.compare_eq_gt.mpr (Nat.lt_succ_of_lt other.isLt)).symm
      | wildcard => exact (Nat.compare_eq_gt.mpr (Nat.lt_succ_self _)).symm
      | invalid => simp [order]

theorem rank_injective {left right : Field width} (same : left.rank = right.rank) : left = right := by
  cases left with
  | value word =>
      have bound := word.isLt
      cases right with
      | value other => exact congrArg value (BitVec.eq_of_toNat_eq same)
      | wildcard | invalid => simp only [rank] at same; omega
  | wildcard =>
      cases right with
      | value other => have bound := other.isLt; simp only [rank] at same; omega
      | wildcard => rfl
      | invalid => simp [rank] at same
  | invalid =>
      cases right with
      | value other => have bound := other.isLt; simp only [rank] at same; omega
      | wildcard => simp [rank] at same
      | invalid => rfl

theorem eq_of_order_eq {left right : Field width} (same : left.order right = .eq) : left = right := by
  rw [order_eq_compare_rank, Nat.compare_eq_eq] at same
  exact rank_injective same

end Field

namespace Index3

theorem length_ranks (index : Index3) : index.ranks.length = 3 := by
  cases index <;> rfl

theorem order_eq_compareLex_ranks (left right : Index3) :
    left.order right = List.compareLex compare left.ranks right.ranks := by
  cases left with
  | axes x y z =>
      cases right with
      | axes x' y' z' => simp only [order, ranks, compareLex_three, Field.order_eq_compare_rank]
      | inapplicable =>
          have below : compare x.rank (2 ^ 32 + 2) = .lt := Nat.compare_eq_lt.mpr x.rank_lt
          simp only [order, ranks, compareLex_three, below, Ordering.lt_then]
  | inapplicable =>
      cases right with
      | axes x' y' z' =>
          have above : compare (2 ^ 32 + 2) x'.rank = .gt := Nat.compare_eq_gt.mpr x'.rank_lt
          simp only [order, ranks, compareLex_three, above, Ordering.gt_then]
      | inapplicable => simp [order, ranks, compareLex_three]

theorem ranks_injective {left right : Index3} (same : left.ranks = right.ranks) : left = right := by
  cases left with
  | axes x y z =>
      cases right with
      | axes x' y' z' =>
          simp only [ranks, List.cons.injEq, and_true] at same
          obtain ⟨sameX, sameY, sameZ⟩ := same
          rw [Field.rank_injective sameX, Field.rank_injective sameY, Field.rank_injective sameZ]
      | inapplicable =>
          have bound := x.rank_lt
          simp only [ranks, List.cons.injEq] at same
          omega
  | inapplicable =>
      cases right with
      | axes x' y' z' =>
          have bound := x'.rank_lt
          simp only [ranks, List.cons.injEq] at same
          omega
      | inapplicable => rfl

end Index3

namespace Physical

theorem length_ranks (address : Physical) : address.ranks.length = 4 := rfl

theorem order_eq_compareLex_ranks (left right : Physical) :
    left.order right = List.compareLex compare left.ranks right.ranks := by
  simp only [order, ranks, Field.order_eq_compare_rank, List.compareLex_cons_cons, List.compareLex_nil_nil,
    Ordering.then_eq]

theorem order_self (address : Physical) : address.order address = .eq := by
  rw [order_eq_compareLex_ranks]
  exact Std.ReflCmp.compare_self

theorem ranks_injective {left right : Physical} (same : left.ranks = right.ranks) : left = right := by
  simp only [ranks, List.cons.injEq, and_true] at same
  obtain ⟨dev, sm, wp, ln⟩ := same
  obtain ⟨⟩ := left
  obtain ⟨⟩ := right
  simp only [mk.injEq]
  exact ⟨Field.rank_injective dev, Field.rank_injective sm, Field.rank_injective wp, Field.rank_injective ln⟩

end Physical

namespace Logical

theorem length_ranks (address : Logical) : address.ranks.length = 11 := by
  simp [ranks, Index3.length_ranks]

theorem order_eq_compareLex_ranks (left right : Logical) :
    left.order right = List.compareLex compare left.ranks right.ranks := by
  rw [ranks, ranks, compareLex_append (by simp [Index3.length_ranks]),
    compareLex_append (by simp [Index3.length_ranks]), compareLex_append (by simp)]
  simp only [order, Field.order_eq_compare_rank, Index3.order_eq_compareLex_ranks, List.compareLex_cons_cons,
    List.compareLex_nil_nil, Ordering.then_eq, Ordering.then_assoc]

theorem ranks_injective {left right : Logical} (same : left.ranks = right.ranks) : left = right := by
  obtain ⟨untilBlock, thread⟩ := List.append_inj same (by simp [Index3.length_ranks])
  obtain ⟨untilCluster, block⟩ := List.append_inj untilBlock (by simp [Index3.length_ranks])
  obtain ⟨identifiers, cluster⟩ := List.append_inj untilCluster rfl
  simp only [List.cons.injEq, and_true] at identifiers
  obtain ⟨⟩ := left
  obtain ⟨⟩ := right
  simp only [mk.injEq]
  exact ⟨Field.rank_injective identifiers.1, Field.rank_injective identifiers.2, Index3.ranks_injective cluster,
    Index3.ranks_injective block, Index3.ranks_injective thread⟩

end Logical

theorem compareGaps_eq_compare_distance (origin left right : Nat) :
    compareGaps origin left right = compare (distance origin left) (distance origin right) := by
  have gapEq (place : Nat) : gap place origin = distance origin place := by
    simp only [gap, distance]
    omega
  rw [compareGaps, gapEq, gapEq]

namespace Field

variable {width : Nat}

theorem length_distances (origin left right : Field width) :
    (origin.distances left).length = (origin.distances right).length := by
  simp only [distances]
  split <;> rfl

theorem nearer_eq_compareLex_distances (origin left right : Field width) :
    origin.nearer left right = List.compareLex compare (origin.distances left) (origin.distances right) := by
  cases origin with
  | wildcard => simp [nearer, distances, isWildcard, List.compareLex_nil_nil]
  | value word =>
      simp [nearer, distances, isWildcard, compareGaps_eq_compare_distance, compareLex_singleton]
  | invalid =>
      simp [nearer, distances, isWildcard, compareGaps_eq_compare_distance, compareLex_singleton]

theorem position_lt (field : Field width) (narrow : width ≤ 64) : field.position < UInt64.size := by
  cases field with
  | value word => exact Nat.lt_of_lt_of_le word.isLt (Nat.pow_le_pow_right (by decide) narrow)
  | wildcard | invalid => simp [position, UInt64.size]

theorem distances_lt {origin field : Field width} (narrow : width ≤ 64) :
    ∀ far ∈ origin.distances field, far < UInt64.size := by
  intro far member
  simp only [distances] at member
  split at member
  · simp at member
  · rw [List.mem_singleton] at member
    have from_lt := origin.position_lt narrow
    have to_lt := field.position_lt narrow
    simp only [distance] at member
    omega

end Field

namespace Index3

theorem length_distances (origin left right : Index3) :
    (origin.distances left).length = (origin.distances right).length := by
  simp only [distances]
  split <;> rfl

theorem nearer_eq_compareLex_distances (origin left right : Index3) :
    origin.nearer left right = List.compareLex compare (origin.distances left) (origin.distances right) := by
  by_cases wild : origin.hasWildcard
  · simp [nearer, distances, wild, List.compareLex_nil_nil]
  · simp only [nearer, distances, wild, Bool.false_eq_true, if_false, compareGaps_eq_compare_distance,
      compareLex_three]

theorem positions_lt (index : Index3) :
    index.positions.1 < UInt64.size ∧ index.positions.2.1 < UInt64.size ∧ index.positions.2.2 < UInt64.size := by
  cases index with
  | axes x y z =>
      exact ⟨x.position_lt (by decide), y.position_lt (by decide), z.position_lt (by decide)⟩
  | inapplicable => decide

theorem distances_lt {origin index : Index3} : ∀ far ∈ origin.distances index, far < UInt64.size := by
  intro far member
  have from_lt := origin.positions_lt
  have to_lt := index.positions_lt
  simp only [distances] at member
  split at member
  · simp at member
  · simp only [List.mem_cons, List.not_mem_nil, or_false, distance] at member
    omega

end Index3

namespace Physical

theorem length_distances (origin left right : Physical) :
    (origin.distances left).length = (origin.distances right).length := by
  simp only [distances, List.length_append, origin.dev.length_distances left.dev right.dev,
    origin.sm.length_distances left.sm right.sm, origin.wp.length_distances left.wp right.wp,
    origin.ln.length_distances left.ln right.ln]

theorem nearer_eq_compareLex_distances (origin left right : Physical) :
    origin.nearer left right = List.compareLex compare (origin.distances left) (origin.distances right) := by
  have dev := origin.dev.length_distances left.dev right.dev
  have sm := origin.sm.length_distances left.sm right.sm
  have wp := origin.wp.length_distances left.wp right.wp
  rw [distances, distances, compareLex_append (by simp only [List.length_append, dev, sm, wp]),
    compareLex_append (by simp only [List.length_append, dev, sm]), compareLex_append dev]
  simp only [nearer, Field.nearer_eq_compareLex_distances, Ordering.then_assoc]

theorem distances_lt {origin address : Physical} : ∀ far ∈ origin.distances address, far < UInt64.size := by
  intro far member
  simp only [distances, List.mem_append] at member
  rcases member with ((dev | sm) | wp) | ln
  · exact Field.distances_lt (by decide) far dev
  · exact Field.distances_lt (by decide) far sm
  · exact Field.distances_lt (by decide) far wp
  · exact Field.distances_lt (by decide) far ln

end Physical

namespace Logical

theorem length_distances (origin left right : Logical) :
    (origin.distances left).length = (origin.distances right).length := by
  simp only [distances, List.length_append, origin.kernel.length_distances left.kernel right.kernel,
    origin.grid.length_distances left.grid right.grid, origin.block.length_distances left.block right.block,
    origin.thread.length_distances left.thread right.thread]

theorem nearer_eq_compareLex_distances (origin left right : Logical) :
    origin.nearer left right = List.compareLex compare (origin.distances left) (origin.distances right) := by
  have kernel := origin.kernel.length_distances left.kernel right.kernel
  have grid := origin.grid.length_distances left.grid right.grid
  have block := origin.block.length_distances left.block right.block
  rw [distances, distances, compareLex_append (by simp only [List.length_append, kernel, grid, block]),
    compareLex_append (by simp only [List.length_append, kernel, grid]), compareLex_append kernel]
  simp only [nearer, Field.nearer_eq_compareLex_distances, Index3.nearer_eq_compareLex_distances,
    Ordering.then_assoc]

theorem distances_lt {origin address : Logical} : ∀ far ∈ origin.distances address, far < UInt64.size := by
  intro far member
  simp only [distances, List.mem_append] at member
  rcases member with ((kernel | grid) | block) | thread
  · exact Field.distances_lt (by decide) far kernel
  · exact Field.distances_lt (by decide) far grid
  · exact Index3.distances_lt far block
  · exact Index3.distances_lt far thread

end Logical

namespace Comparator

theorem length_distances (comparator : Comparator) (left right : Coords) :
    (comparator.distances left).length = (comparator.distances right).length := by
  simp only [distances]
  split
  · rfl
  · exact Logical.length_distances _ _ _
  · exact Physical.length_distances _ _ _

theorem compareLogical_eq (comparator : Comparator) (logical : comparator.addressing = .logical)
    (left right : Coords) :
    comparator.compareLogical left.logical right.logical =
      (List.compareLex Ord.compare (comparator.distances left) (comparator.distances right)).then
        (List.compareLex Ord.compare left.logical.ranks right.logical.ranks) := by
  cases measured : comparator.origin with
  | none =>
      simp only [compareLogical, distances, measured, List.compareLex_nil_nil, Ordering.eq_then,
        Logical.order_eq_compareLex_ranks]
  | some origin =>
      simp only [compareLogical, distances, measured, logical, Logical.nearer_eq_compareLex_distances,
        Logical.order_eq_compareLex_ranks]

theorem comparePhysical_eq (comparator : Comparator) (physical : comparator.addressing = .physical)
    (left right : Coords) :
    comparator.comparePhysical left.physical right.physical =
      (List.compareLex Ord.compare (comparator.distances left) (comparator.distances right)).then
        (List.compareLex Ord.compare left.physical.ranks right.physical.ranks) := by
  cases measured : comparator.origin with
  | none =>
      simp only [comparePhysical, distances, measured, List.compareLex_nil_nil, Ordering.eq_then,
        Physical.order_eq_compareLex_ranks]
  | some origin =>
      simp only [comparePhysical, distances, measured, physical, Physical.nearer_eq_compareLex_distances,
        Physical.order_eq_compareLex_ranks]

theorem compare_eq_compareLex (comparator : Comparator) (left right : Coords) :
    comparator.compare left right =
      List.compareLex Ord.compare (comparator.tuple left) (comparator.tuple right) := by
  have length := comparator.length_distances left right
  cases decides : comparator.addressing with
  | logical =>
      simp only [compare, tuple, decides]
      rw [compareLex_append (by simp only [List.length_append, length, Logical.length_ranks]),
        compareLex_append length, comparator.compareLogical_eq decides, Physical.order_eq_compareLex_ranks]
  | physical =>
      simp only [compare, tuple, decides]
      rw [compareLex_append (by simp only [List.length_append, length, Physical.length_ranks]),
        compareLex_append length, comparator.comparePhysical_eq decides, Logical.order_eq_compareLex_ranks]

theorem tuple_injective (comparator : Comparator) {left right : Coords}
    (same : comparator.tuple left = comparator.tuple right) : left = right := by
  have length := comparator.length_distances left right
  obtain ⟨leftPhysical, leftLogical⟩ := left
  obtain ⟨rightPhysical, rightLogical⟩ := right
  cases decides : comparator.addressing with
  | logical =>
      simp only [tuple, decides, List.append_assoc] at same
      obtain ⟨-, ranks⟩ := List.append_inj same length
      obtain ⟨logical, physical⟩ := List.append_inj ranks (by simp only [Logical.length_ranks])
      rw [Logical.ranks_injective logical, Physical.ranks_injective physical]
  | physical =>
      simp only [tuple, decides, List.append_assoc] at same
      obtain ⟨-, ranks⟩ := List.append_inj same length
      obtain ⟨physical, logical⟩ := List.append_inj ranks (by simp only [Physical.length_ranks])
      rw [Logical.ranks_injective logical, Physical.ranks_injective physical]

instance (comparator : Comparator) : Std.TransCmp comparator.compare where
  eq_swap {left right} := by
    simp only [compare_eq_compareLex]
    exact Std.OrientedCmp.eq_swap
  isLE_trans {left middle right} first second := by
    simp only [compare_eq_compareLex] at first second ⊢
    exact Std.TransCmp.isLE_trans first second

instance (comparator : Comparator) : Std.LawfulEqCmp comparator.compare where
  compare_self {coords} := by
    rw [compare_eq_compareLex]
    exact Std.ReflCmp.compare_self
  eq_of_compare {left right} equal := by
    rw [compare_eq_compareLex] at equal
    exact comparator.tuple_injective (Std.LawfulEqCmp.eq_of_compare equal)

theorem compare_swap (comparator : Comparator) (left right : Coords) :
    comparator.compare right left = (comparator.compare left right).swap :=
  Std.OrientedCmp.eq_swap

theorem compare_total (comparator : Comparator) (left right : Coords) :
    (comparator.compare left right).isLE = true ∨ (comparator.compare right left).isLE = true := by
  rw [comparator.compare_swap left right]
  cases comparator.compare left right with
  | lt | eq => exact .inl rfl
  | gt => exact .inr rfl

theorem distances_lt (comparator : Comparator) (coords : Coords) :
    ∀ far ∈ comparator.distances coords, far < UInt64.size := by
  simp only [distances]
  split
  · simp
  · exact Logical.distances_lt
  · exact Physical.distances_lt

/-- A comparator compares tuples of distances and contents lexicographically.  No distance overflows, and the order
is linear: antisymmetric, transitive and total, with equality of all axes as its only equality. -/
theorem compare_linear (comparator : Comparator) :
    (∀ left right, comparator.compare left right =
      List.compareLex Ord.compare (comparator.tuple left) (comparator.tuple right)) ∧
    (∀ coords, ∀ far ∈ comparator.distances coords, far < UInt64.size) ∧
    (∀ left right, comparator.compare right left = (comparator.compare left right).swap) ∧
    (∀ left middle right, (comparator.compare left middle).isLE → (comparator.compare middle right).isLE →
      (comparator.compare left right).isLE) ∧
    (∀ left right, (comparator.compare left right).isLE ∨ (comparator.compare right left).isLE) ∧
    ∀ left right, comparator.compare left right = .eq ↔ left = right := by
  refine ⟨comparator.compare_eq_compareLex, comparator.distances_lt, comparator.compare_swap, ?_,
    comparator.compare_total, ?_⟩
  · intro left middle right first second
    exact Std.TransCmp.isLE_trans first second
  · intro left right
    exact Std.LawfulEqCmp.compare_eq_iff_eq

end Comparator

end LaneScope
