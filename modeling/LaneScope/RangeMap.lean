import LaneScope.Text.Decimal

/-!
Maps from disjoint address ranges to values.  A range holds its start and not its stop; ranges are kept by
ascending start, and one that would overlap another is refused.  A new range is compared with two stored ones only:
the one with the same start, and the last one that starts below its end.
-/

namespace LaneScope

abbrev Address := BitVec 64

structure Span (α : Type) where
  start : Address
  stop : Address
  value : α
deriving DecidableEq

structure RangeMap (α : Type) where
  spans : List (Span α) := []
deriving DecidableEq

inductive RangeFault where
  | overflow (start size : Address)
  | overlap (start stop storedStart storedStop : Address)
deriving DecidableEq

namespace RangeFault

def hex (address : Address) : String :=
  String.ofList (hexadecimal address.toNat)

def message : RangeFault → String
  | overflow start size => "range " ++ hex start ++ "+" ++ hex size ++ " overflows"
  | overlap start stop storedStart storedStop =>
    "range [" ++ hex start ++ ", " ++ hex stop ++ ") overlaps [" ++ hex storedStart ++ ", " ++
      hex storedStop ++ ")"

end RangeFault

namespace RangeMap

variable {α : Type}

def empty : RangeMap α := {}

def lastBelow (map : RangeMap α) (limit : Nat) : Option (Span α) :=
  (map.spans.takeWhile fun span => span.start.toNat < limit).getLast?

def startingAt (map : RangeMap α) (start : Address) : Option (Span α) :=
  map.spans.find? fun span => span.start == start

def place (span : Span α) : List (Span α) → List (Span α)
  | [] => [span]
  | first :: rest =>
    if span.start.toNat < first.start.toNat then span :: first :: rest else first :: place span rest

/-- Adds the range of the given size.  An empty range overlaps every range that holds or starts at its start. -/
def insert (map : RangeMap α) (start size : Address) (value : α) : Except RangeFault (RangeMap α) :=
  if start.toNat + size.toNat < UInt64.size then
    let stop := start + size
    match map.startingAt start with
    | some stored => .error (.overlap start stop start stored.stop)
    | none =>
      let limit := max stop.toNat (min (start.toNat + 1) (UInt64.size - 1))
      match map.lastBelow limit with
      | some stored =>
        if stored.stop.toNat ≤ start.toNat then .ok ⟨place ⟨start, stop, value⟩ map.spans⟩
        else .error (.overlap start stop stored.start stored.stop)
      | none => .ok ⟨place ⟨start, stop, value⟩ map.spans⟩
  else .error (.overflow start size)

def find? (map : RangeMap α) (address : Address) : Option (Span α) :=
  match map.lastBelow (address.toNat + 1) with
  | some span => if address.toNat < span.stop.toNat then some span else none
  | none => none

def get? (map : RangeMap α) (address : Address) : Option α :=
  (map.find? address).map Span.value

def removeContaining (map : RangeMap α) (address : Address) : Option α × RangeMap α :=
  match map.find? address with
  | some span => (some span.value, ⟨map.spans.filter fun stored => stored.start != span.start⟩)
  | none => (none, map)

def size (map : RangeMap α) : Nat := map.spans.length

def isEmpty (map : RangeMap α) : Bool := map.spans.isEmpty

end RangeMap

end LaneScope
