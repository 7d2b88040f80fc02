import LaneScope.Coord.Granularity
import LaneScope.Coord.Comparator

/-!
Queries.  A query asks for the units of one granularity that pass a filter and meet a set of criteria, in the order
of a comparator.
-/

namespace LaneScope

inductive Criterion where
  | valid | breakpoint | exception | smException | single | trap | currentClock | active
deriving DecidableEq

namespace Criterion

def all : List Criterion := [valid, breakpoint, exception, smException, single, trap, currentClock, active]

def name : Criterion → String
  | valid => "VALID"
  | breakpoint => "BREAKPOINT"
  | exception => "EXCEPTION"
  | smException => "SM_EXCEPTION"
  | single => "SINGLE"
  | trap => "TRAP"
  | currentClock => "CURRENT_CLOCK"
  | active => "ACTIVE"

end Criterion

structure Select where
  valid : Bool := false
  /-- Only active lanes that stand at a breakpoint. -/
  breakpoint : Bool := false
  /-- Only active lanes with an exception, on multiprocessors that report one. -/
  exception : Bool := false
  smException : Bool := false
  single : Bool := false
  /-- Only active lanes of warps that are stopped at a trap. -/
  trap : Bool := false
  /-- No warps and lanes that last changed before the current tick. -/
  currentClock : Bool := false
  active : Bool := false
deriving DecidableEq

namespace Select

def has (select : Select) : Criterion → Bool
  | .valid => select.valid
  | .breakpoint => select.breakpoint
  | .exception => select.exception
  | .smException => select.smException
  | .single => select.single
  | .trap => select.trap
  | .currentClock => select.currentClock
  | .active => select.active

def add (select : Select) : Criterion → Select
  | .valid => { select with valid := true }
  | .breakpoint => { select with breakpoint := true }
  | .exception => { select with exception := true }
  | .smException => { select with smException := true }
  | .single => { select with single := true }
  | .trap => { select with trap := true }
  | .currentClock => { select with currentClock := true }
  | .active => { select with active := true }

def text (select : Select) : String :=
  match Criterion.all.filter select.has with
  | [] => "Select(0x0)"
  | criteria => "Select(" ++ String.intercalate " | " (criteria.map Criterion.name) ++ ")"

end Select

structure Query where
  granularity : Granularity
  filter : Coords := .wild
  select : Select := {}
  comparator : Comparator := {}
deriving DecidableEq

/-- Nearest-neighbour order needs results without open axes, which only the granularities of single lanes have. -/
def Query.isAnswerable (query : Query) : Bool :=
  query.comparator.origin.isNone || query.granularity.isSingleLane

end LaneScope
