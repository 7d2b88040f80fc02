import LaneScope.Coord.Index3

/-!
Coordinates of execution units.  A unit is addressed physically, by device, multiprocessor, warp and lane, and
logically, by kernel, grid, cluster, block and thread; `Coords` carries both addresses.  With wildcards on some of
its nine axes a coordinate is a filter, and `Coords.accepts` says which coordinates pass it.
-/

namespace LaneScope

inductive Axis where
  | dev | sm | wp | ln | kernel | grid | cluster | block | thread
deriving DecidableEq

namespace Axis

abbrev Content : Axis → Type
  | dev | sm | wp | ln => Field 32
  | kernel | grid => Field 64
  | cluster | block | thread => Index3

def all : List Axis := [dev, sm, wp, ln, kernel, grid, cluster, block, thread]

def name : Axis → String
  | dev => "dev"
  | sm => "sm"
  | wp => "wp"
  | ln => "ln"
  | kernel => "kernel"
  | grid => "grid"
  | cluster => "cluster"
  | block => "block"
  | thread => "thread"

end Axis

structure Physical where
  dev : Field 32 := .wildcard
  sm : Field 32 := .wildcard
  wp : Field 32 := .wildcard
  ln : Field 32 := .wildcard
deriving DecidableEq

namespace Physical

def lane (dev sm wp ln : BitVec 32) : Physical :=
  ⟨.value dev, .value sm, .value wp, .value ln⟩

def accepts (filter candidate : Physical) : Bool :=
  filter.dev.accepts candidate.dev && filter.sm.accepts candidate.sm &&
    filter.wp.accepts candidate.wp && filter.ln.accepts candidate.ln

def fullyDefined (address : Physical) : Bool :=
  !(address.dev.isWildcard || address.sm.isWildcard || address.wp.isWildcard || address.ln.isWildcard)

def order (left right : Physical) : Ordering :=
  (left.dev.order right.dev).then <| (left.sm.order right.sm).then <|
    (left.wp.order right.wp).then (left.ln.order right.ln)

end Physical

structure Logical where
  kernel : Field 64 := .wildcard
  grid : Field 64 := .wildcard
  cluster : Index3 := .wildcard
  block : Index3 := .wildcard
  thread : Index3 := .wildcard
deriving DecidableEq

namespace Logical

def invalid : Logical :=
  ⟨.invalid, .invalid, .invalid, .invalid, .invalid⟩

def accepts (filter candidate : Logical) : Bool :=
  filter.kernel.accepts candidate.kernel && filter.grid.accepts candidate.grid &&
    filter.cluster.accepts candidate.cluster && filter.block.accepts candidate.block &&
    filter.thread.accepts candidate.thread

def fullyDefined (address : Logical) : Bool :=
  !(address.kernel.isWildcard || address.grid.isWildcard || address.cluster.hasWildcard ||
    address.block.hasWildcard || address.thread.hasWildcard)

def order (left right : Logical) : Ordering :=
  (left.kernel.order right.kernel).then <| (left.grid.order right.grid).then <|
    (left.cluster.order right.cluster).then <| (left.block.order right.block).then
      (left.thread.order right.thread)

end Logical

structure Coords where
  physical : Physical := {}
  logical : Logical := {}
deriving DecidableEq

namespace Coords

def wild : Coords := {}

def get (coords : Coords) : (axis : Axis) → axis.Content
  | .dev => coords.physical.dev
  | .sm => coords.physical.sm
  | .wp => coords.physical.wp
  | .ln => coords.physical.ln
  | .kernel => coords.logical.kernel
  | .grid => coords.logical.grid
  | .cluster => coords.logical.cluster
  | .block => coords.logical.block
  | .thread => coords.logical.thread

def set (coords : Coords) : (axis : Axis) → axis.Content → Coords
  | .dev, field => { coords with physical := { coords.physical with dev := field } }
  | .sm, field => { coords with physical := { coords.physical with sm := field } }
  | .wp, field => { coords with physical := { coords.physical with wp := field } }
  | .ln, field => { coords with physical := { coords.physical with ln := field } }
  | .kernel, field => { coords with logical := { coords.logical with kernel := field } }
  | .grid, field => { coords with logical := { coords.logical with grid := field } }
  | .cluster, index => { coords with logical := { coords.logical with cluster := index } }
  | .block, index => { coords with logical := { coords.logical with block := index } }
  | .thread, index => { coords with logical := { coords.logical with thread := index } }

theorem get_set_self (coords : Coords) (axis : Axis) (content : axis.Content) :
    (coords.set axis content).get axis = content := by
  cases axis <;> rfl

theorem get_set_of_ne (coords : Coords) {axis other : Axis} (apart : axis ≠ other) (content : axis.Content) :
    (coords.set axis content).get other = coords.get other := by
  cases axis <;> cases other <;> first | rfl | exact (apart rfl).elim

theorem eq_of_get_eq {left right : Coords} (same : ∀ axis, left.get axis = right.get axis) : left = right := by
  obtain ⟨⟨dev, sm, wp, ln⟩, ⟨kernel, grid, cluster, block, thread⟩⟩ := left
  obtain ⟨⟨dev', sm', wp', ln'⟩, ⟨kernel', grid', cluster', block', thread'⟩⟩ := right
  obtain rfl : dev = dev' := same .dev
  obtain rfl : sm = sm' := same .sm
  obtain rfl : wp = wp' := same .wp
  obtain rfl : ln = ln' := same .ln
  obtain rfl : kernel = kernel' := same .kernel
  obtain rfl : grid = grid' := same .grid
  obtain rfl : cluster = cluster' := same .cluster
  obtain rfl : block = block' := same .block
  obtain rfl : thread = thread' := same .thread
  rfl

def accepts (filter candidate : Coords) : Bool :=
  filter.physical.accepts candidate.physical && filter.logical.accepts candidate.logical

def acceptsOn (filter candidate : Coords) : Axis → Bool
  | .dev => filter.physical.dev.accepts candidate.physical.dev
  | .sm => filter.physical.sm.accepts candidate.physical.sm
  | .wp => filter.physical.wp.accepts candidate.physical.wp
  | .ln => filter.physical.ln.accepts candidate.physical.ln
  | .kernel => filter.logical.kernel.accepts candidate.logical.kernel
  | .grid => filter.logical.grid.accepts candidate.logical.grid
  | .cluster => filter.logical.cluster.accepts candidate.logical.cluster
  | .block => filter.logical.block.accepts candidate.logical.block
  | .thread => filter.logical.thread.accepts candidate.logical.thread

def order (left right : Coords) : Ordering :=
  (left.physical.order right.physical).then (left.logical.order right.logical)

end Coords

end LaneScope
