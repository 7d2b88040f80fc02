import LaneScope.Query.Walk

/-!
Answers of queries: coordinates in the order of a comparator, each once.
-/

namespace LaneScope

structure CoordSet where
  coords : Array Coords
  comparator : Comparator
deriving DecidableEq

def withoutRepeats : List Coords → List Coords
  | first :: second :: rest =>
    if first = second then withoutRepeats (second :: rest)
    else first :: withoutRepeats (second :: rest)
  | short => short

namespace CoordSet

def collect (comparator : Comparator) (listing : List Coords) : CoordSet :=
  ⟨(withoutRepeats (comparator.sort listing)).toArray, comparator⟩

def first? (set : CoordSet) : Option Coords :=
  set.coords[0]?

def bisect (set : CoordSet) (target : Coords) (low high : Nat) (inside : high ≤ set.coords.size) : Bool :=
  if room : low < high then
    have : (low + high) / 2 < set.coords.size := by omega
    match set.comparator.compare set.coords[(low + high) / 2] target with
    | .eq => true
    | .lt => set.bisect target ((low + high) / 2 + 1) high inside
    | .gt => set.bisect target low ((low + high) / 2) (by omega)
  else false
termination_by high - low

def contains (set : CoordSet) (target : Coords) : Bool :=
  set.bisect target 0 set.coords.size (Nat.le_refl _)

end CoordSet

def Provider.evaluate (provider : Provider) (query : Query) : Consulted CoordSet :=
  if query.isAnswerable then
    let walked := query.walk provider
    ⟨walked.kernels, walked.outcome.map (CoordSet.collect query.comparator)⟩
  else ⟨[], .error (.partialOrigin query.comparator.addressing query.granularity)⟩

end LaneScope
