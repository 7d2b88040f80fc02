import LaneScope.Coord.Field

/-!
Three-component indices.  `Dim3` is a concrete extent or index as the device reports it; `Index3` is such an
index inside a coordinate, with an open or invalid content on each axis, or not applicable to the launch at all.
-/

namespace LaneScope

structure Dim3 where
  x : BitVec 32
  y : BitVec 32
  z : BitVec 32
deriving DecidableEq

namespace Dim3

def zero : Dim3 := ⟨0, 0, 0⟩

def hasVolume (dim : Dim3) : Bool :=
  dim.x != 0 && dim.y != 0 && dim.z != 0

def volume? (dim : Dim3) : Option Nat :=
  let count := dim.x.toNat * dim.y.toNat * dim.z.toNat
  if count < UInt64.size then some count else none

def order (left right : Dim3) : Ordering :=
  (compare left.x.toNat right.x.toNat).then <|
    (compare left.y.toNat right.y.toNat).then (compare left.z.toNat right.z.toNat)

def quotient (index extent : Dim3) : Dim3 :=
  ⟨index.x / extent.x, index.y / extent.y, index.z / extent.z⟩

/-- The elements in a row of the extent.  An empty axis counts as one element long. -/
def columns (extent : Dim3) : Nat := max extent.x.toNat 1

def rows (extent : Dim3) : Nat := max extent.y.toNat 1

def ofLinear (extent : Dim3) (place : Nat) : Dim3 :=
  ⟨BitVec.ofNat 32 (place % extent.columns),
    BitVec.ofNat 32 (place / extent.columns % extent.rows),
    BitVec.ofNat 32 (place / (extent.columns * extent.rows))⟩

def chars (dim : Dim3) : List Char :=
  '(' :: decimal dim.x.toNat ++ ',' :: decimal dim.y.toNat ++ ',' :: decimal dim.z.toNat ++ [')']

def text (dim : Dim3) : String :=
  String.ofList dim.chars

end Dim3

inductive Index3 where
  | axes (x y z : Field 32)
  /-- The index does not apply, as the cluster index of a launch without clusters. -/
  | inapplicable
deriving DecidableEq

namespace Index3

def wildcard : Index3 := axes .wildcard .wildcard .wildcard

def invalid : Index3 := axes .invalid .invalid .invalid

def ofDim3 (dim : Dim3) : Index3 :=
  axes (.value dim.x) (.value dim.y) (.value dim.z)

def dim3? : Index3 → Option Dim3
  | axes (.value x) (.value y) (.value z) => some ⟨x, y, z⟩
  | _ => none

def isInapplicable : Index3 → Bool
  | inapplicable => true
  | axes _ _ _ => false

def hasWildcard : Index3 → Bool
  | axes x y z => x.isWildcard || y.isWildcard || z.isWildcard
  | inapplicable => false

/-- Acceptance is by component.  An inapplicable candidate is accepted by an inapplicable filter and by one whose
three components are all open. -/
def accepts : Index3 → Index3 → Bool
  | axes x y z, axes x' y' z' => x.accepts x' && y.accepts y' && z.accepts z'
  | axes x y z, inapplicable => x.isWildcard && y.isWildcard && z.isWildcard
  | inapplicable, candidate => candidate.isInapplicable

def keep (index : Index3) (kept : Bool) : Index3 :=
  if kept then index else wildcard

def order : Index3 → Index3 → Ordering
  | axes x y z, axes x' y' z' => (x.order x').then ((y.order y').then (z.order z'))
  | axes _ _ _, inapplicable => .lt
  | inapplicable, axes _ _ _ => .gt
  | inapplicable, inapplicable => .eq

def chars : Index3 → List Char
  | inapplicable => ['-']
  | axes .wildcard .wildcard .wildcard => ['*']
  | axes .invalid .invalid .invalid => ['?']
  | axes x y z => '(' :: x.chars ++ ',' :: y.chars ++ ',' :: z.chars ++ [')']

def text (index : Index3) : String :=
  String.ofList index.chars

def readMark (mark : Char) : List Char → Option (List Char)
  | [] => none
  | first :: rest => if first = mark then some rest else none

def readAxes (text : List Char) : Option (Index3 × List Char) := do
  let rest ← readMark '(' text
  let (x, rest) ← Field.read 32 rest
  let rest ← readMark ',' rest
  let (y, rest) ← Field.read 32 rest
  let rest ← readMark ',' rest
  let (z, rest) ← Field.read 32 rest
  let rest ← readMark ')' rest
  return (axes x y z, rest)

def read (text : List Char) : Option (Index3 × List Char) :=
  match text with
  | '*' :: rest => some (wildcard, rest)
  | '?' :: rest => some (invalid, rest)
  | '-' :: rest => some (inapplicable, rest)
  | _ => readAxes text

end Index3

end LaneScope
