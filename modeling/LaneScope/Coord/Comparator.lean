import LaneScope.Coord.Basic

/-!
Orders on coordinates.  A comparator decides by one of the two addresses first, either sequentially or by distance
from an origin, and lets the other address break the ties that remain.
-/

namespace LaneScope

inductive Addressing where
  | logical
  | physical
deriving DecidableEq

def Addressing.name : Addressing → String
  | logical => "Logical"
  | physical => "Physical"

/-- The place of an axis on the number line of its distances.  Markers lie at the upper end of the 64-bit words. -/
def Field.position {width : Nat} : Field width → Nat
  | value word => word.toNat
  | wildcard => UInt64.size - 2
  | invalid => UInt64.size - 1

def Index3.positions : Index3 → Nat × Nat × Nat
  | axes x y z => (x.position, y.position, z.position)
  | inapplicable => (UInt64.size - 3, UInt64.size - 3, UInt64.size - 3)

def gap (left right : Nat) : Nat :=
  (left - right) + (right - left)

def compareGaps (origin left right : Nat) : Ordering :=
  compare (gap left origin) (gap right origin)

def Field.nearer {width : Nat} (origin left right : Field width) : Ordering :=
  if origin.isWildcard then .eq else compareGaps origin.position left.position right.position

/-- Distances are compared by component, from x to z.  An origin with an open component does not decide at all. -/
def Index3.nearer (origin left right : Index3) : Ordering :=
  if origin.hasWildcard then .eq
  else
    let (x, y, z) := origin.positions
    let (leftX, leftY, leftZ) := left.positions
    let (rightX, rightY, rightZ) := right.positions
    (compareGaps x leftX rightX).then <|
      (compareGaps y leftY rightY).then (compareGaps z leftZ rightZ)

def Physical.nearer (origin left right : Physical) : Ordering :=
  (origin.dev.nearer left.dev right.dev).then <| (origin.sm.nearer left.sm right.sm).then <|
    (origin.wp.nearer left.wp right.wp).then (origin.ln.nearer left.ln right.ln)

/-- The cluster is no axis of distance. -/
def Logical.nearer (origin left right : Logical) : Ordering :=
  (origin.kernel.nearer left.kernel right.kernel).then <|
    (origin.grid.nearer left.grid right.grid).then <|
      (origin.block.nearer left.block right.block).then (origin.thread.nearer left.thread right.thread)

structure Comparator where
  addressing : Addressing := .logical
  origin : Option Coords := none
deriving DecidableEq

namespace Comparator

def comparePhysical (comparator : Comparator) (left right : Physical) : Ordering :=
  match comparator.origin with
  | some origin => (origin.physical.nearer left right).then (left.order right)
  | none => left.order right

def compareLogical (comparator : Comparator) (left right : Logical) : Ordering :=
  match comparator.origin with
  | some origin => (origin.logical.nearer left right).then (left.order right)
  | none => left.order right

def compare (comparator : Comparator) (left right : Coords) : Ordering :=
  match comparator.addressing with
  | .logical =>
    (comparator.compareLogical left.logical right.logical).then (left.physical.order right.physical)
  | .physical =>
    (comparator.comparePhysical left.physical right.physical).then (left.logical.order right.logical)

def sort (comparator : Comparator) (listing : List Coords) : List Coords :=
  listing.mergeSort fun left right => (comparator.compare left right).isLE

end Comparator

end LaneScope
