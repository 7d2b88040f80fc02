import LaneScope.Kernel.Basic

/-!
Execution units.  A device has multiprocessors, a multiprocessor runs warps, and a warp has lanes.  A unit that was
never touched is idle: not valid, and with no content.
-/

namespace LaneScope

abbrev Tick := BitVec 64

inductive LaneException where
  | illegalAddress
  | illegalInstruction
  | misalignedAddress
  | warpAssert
  | stackOverflow
  | other (code : BitVec 32)
deriving DecidableEq

def LaneException.text : LaneException → String
  | illegalAddress => "illegal address"
  | illegalInstruction => "illegal instruction"
  | misalignedAddress => "misaligned address"
  | warpAssert => "warp assert"
  | stackOverflow => "stack overflow"
  | other code => "exception " ++ toString code.toNat

structure Lane where
  valid : Bool := false
  active : Bool := false
  exception : Option LaneException := none
  timestamp : Option Tick := none
  pc : Address := 0
  thread : Dim3 := .zero
deriving DecidableEq

structure Warp where
  valid : Bool := false
  /-- Whether the warp is stopped at a trap. -/
  broken : Bool := false
  timestamp : Option Tick := none
  grid : GridId := 0
  block : Dim3 := .zero
  cluster : Dim3 := .zero
  lanes : Ordinal → Lane := fun _ => {}

structure Sm where
  valid : Bool := false
  exception : Bool := false
deriving DecidableEq

structure Site where
  dev : Ordinal
  sm : Ordinal
  wp : Ordinal
deriving DecidableEq

def assign {κ α : Type} [DecidableEq κ] (table : κ → α) (key : κ) (value : α) : κ → α :=
  fun other => if other = key then value else table other

def ordinals (count : Ordinal) : List Ordinal :=
  (List.range count.toNat).map (BitVec.ofNat 32)

theorem mem_ordinals {count ordinal : Ordinal} : ordinal ∈ ordinals count ↔ ordinal.toNat < count.toNat := by
  simp only [ordinals, List.mem_map, List.mem_range]
  constructor
  · rintro ⟨number, below, rfl⟩
    exact Nat.lt_of_le_of_lt (Nat.mod_le _ _) below
  · intro below
    exact ⟨ordinal.toNat, below, BitVec.ofNat_toNat _ _⟩

theorem map_toNat_ordinals (count : Ordinal) : (ordinals count).map BitVec.toNat = List.range count.toNat := by
  rw [ordinals, List.map_map]
  refine (List.map_congr_left ?_).trans (List.map_id _)
  intro number member
  exact Nat.mod_eq_of_lt (Nat.lt_trans (List.mem_range.mp member) count.isLt)

theorem ordinals_ascending (count : Ordinal) :
    (ordinals count).Pairwise fun left right => left.toNat < right.toNat := by
  have ascending : ((ordinals count).map BitVec.toNat).Pairwise (· < ·) := by
    rw [map_toNat_ordinals]
    exact List.pairwise_lt_range
  exact List.pairwise_map.mp ascending

theorem ordinals_distinct (count : Ordinal) : (ordinals count).Pairwise (· ≠ ·) := by
  apply (ordinals_ascending count).imp
  intro left right less same
  exact Nat.ne_of_lt less (congrArg BitVec.toNat same)

/-- Takes a warp off its slot.  What it last ran stays readable. -/
def Warp.retire (warp : Warp) : Warp :=
  { warp with
    valid := false
    lanes := fun ln => { warp.lanes ln with valid := false, active := false } }

end LaneScope
