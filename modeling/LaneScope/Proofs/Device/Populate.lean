import LaneScope.Device.Snapshot

/-!
The arithmetic of putting a warp to work.  It is done on words of 32 bits, where a sum or a product that does not fit
is a fault, and so is a division by zero.  The lanes are counted by such a word, which is one ahead of them and steps
once more after the last one.  Main statement: whatever the extents of the block and of the cluster, the only faults
are a plane of the block that does not fit, and a last step of the counter beyond the greatest word; without them the
warp gets the indices that the words give.
-/

namespace LaneScope

inductive WordFault where
  | sum | product | divisor | counter
deriving DecidableEq

namespace Word

def plus (left right : BitVec 32) : Except WordFault (BitVec 32) :=
  if left.uaddOverflow right then .error .sum else .ok (left + right)

def times (left right : BitVec 32) : Except WordFault (BitVec 32) :=
  if left.umulOverflow right then .error .product else .ok (left * right)

def quotient (left right : BitVec 32) : Except WordFault (BitVec 32) :=
  if right = 0 then .error .divisor else .ok (left / right)

def remainder (left right : BitVec 32) : Except WordFault (BitVec 32) :=
  if right = 0 then .error .divisor else .ok (left % right)

/-- The number that a counter steps to as it yields one. -/
def next (counter : BitVec 32) : Except WordFault (BitVec 32) :=
  if counter = BitVec.allOnes 32 then .error .counter else .ok (counter + 1)

def atLeastOne (word : BitVec 32) : BitVec 32 := if word = 0 then 1 else word

theorem atLeastOne_ne_zero (word : BitVec 32) : atLeastOne word ≠ 0 := by
  rw [atLeastOne]
  split
  · decide
  · assumption

theorem toNat_atLeastOne (word : BitVec 32) : (atLeastOne word).toNat = max word.toNat 1 := by
  rw [atLeastOne]
  split
  · rename_i zero
    rw [zero]
    rfl
  · rename_i nonzero
    have : word.toNat ≠ 0 := fun same => nonzero (BitVec.eq_of_toNat_eq same)
    omega

theorem plus_of_fits {left right : BitVec 32} (fits : left.toNat + right.toNat < UInt32.size) :
    plus left right = .ok (left + right) := by
  rw [plus, if_neg]
  simpa [BitVec.uaddOverflow, UInt32.size] using fits

theorem next_eq (counter : BitVec 32) :
    next counter = if counter.toNat + 1 < UInt32.size then .ok (counter + 1) else .error .counter := by
  have last : counter = BitVec.allOnes 32 ↔ ¬ counter.toNat + 1 < UInt32.size := by
    have := counter.isLt
    rw [← BitVec.toNat_inj, BitVec.toNat_allOnes, UInt32.size]
    omega
  simp only [next, last, ite_not]

theorem times_eq (left right : BitVec 32) : times left right =
    if left.toNat * right.toNat < UInt32.size then .ok (left * right) else .error .product := by
  simp only [times, BitVec.umulOverflow, decide_eq_true_eq, UInt32.size]
  split <;> split <;> first | rfl | omega

theorem quotient_of_ne_zero {left right : BitVec 32} (nonzero : right ≠ 0) :
    quotient left right = .ok (left / right) :=
  if_neg nonzero

theorem remainder_of_ne_zero {left right : BitVec 32} (nonzero : right ≠ 0) :
    remainder left right = .ok (left % right) :=
  if_neg nonzero

end Word

namespace Dim3

def locate (extent : Dim3) (place : BitVec 32) : Except WordFault Dim3 := do
  let columns := Word.atLeastOne extent.x
  let rows := Word.atLeastOne extent.y
  let x ← Word.remainder place columns
  let y ← Word.remainder (← Word.quotient place columns) rows
  let z ← Word.quotient place (← Word.times columns rows)
  return ⟨x, y, z⟩

def locateFrom (extent : Dim3) (first offset : BitVec 32) : Except WordFault Dim3 := do
  extent.locate (← Word.plus first offset)

/-- The indices of elements from a first place on, one for each lane that is left, by operations on words.  The counter
steps before it is seen whether there is a lane. -/
def locateLanes (extent : Dim3) (first : BitVec 32) : Nat → BitVec 32 → Except WordFault (List Dim3)
  | 0, counter => do
    let _ ← Word.next counter
    return []
  | remaining + 1, counter => do
    let next ← Word.next counter
    let index ← extent.locateFrom first counter
    return index :: (← extent.locateLanes first remaining next)

def locateCluster (extent block : Dim3) : Except WordFault Dim3 :=
  if extent.hasVolume then do
    let x ← Word.quotient block.x extent.x
    let y ← Word.quotient block.y extent.y
    let z ← Word.quotient block.z extent.z
    return ⟨x, y, z⟩
  else return .zero

variable (extent : Dim3)

theorem columns_pos : 0 < extent.columns :=
  Nat.lt_of_lt_of_le Nat.zero_lt_one (Nat.le_max_right _ _)

theorem rows_pos : 0 < extent.rows :=
  Nat.lt_of_lt_of_le Nat.zero_lt_one (Nat.le_max_right _ _)

theorem locate_eq (place : BitVec 32) : extent.locate place =
    if extent.columns * extent.rows < UInt32.size then .ok (.ofLinear extent place.toNat) else .error .product := by
  have columns : (Word.atLeastOne extent.x).toNat = extent.columns := Word.toNat_atLeastOne _
  have rows : (Word.atLeastOne extent.y).toNat = extent.rows := Word.toNat_atLeastOne _
  simp only [locate, Word.times_eq, columns, rows, Word.remainder_of_ne_zero (Word.atLeastOne_ne_zero _),
    Word.quotient_of_ne_zero (Word.atLeastOne_ne_zero _)]
  split
  · rename_i fits
    have size : (Word.atLeastOne extent.x * Word.atLeastOne extent.y).toNat = extent.columns * extent.rows := by
      rw [BitVec.toNat_mul, columns, rows]
      exact Nat.mod_eq_of_lt fits
    have nonzero : Word.atLeastOne extent.x * Word.atLeastOne extent.y ≠ 0 := by
      intro zero
      have area := Nat.mul_pos extent.columns_pos extent.rows_pos
      rw [← size, zero] at area
      contradiction
    have index : (⟨place % Word.atLeastOne extent.x, place / Word.atLeastOne extent.x % Word.atLeastOne extent.y,
        place / (Word.atLeastOne extent.x * Word.atLeastOne extent.y)⟩ : Dim3) = .ofLinear extent place.toNat := by
      rw [ofLinear, ← columns, ← rows, ← BitVec.toNat_umod, ← BitVec.toNat_udiv, ← BitVec.toNat_umod, columns, rows,
        ← size, ← BitVec.toNat_udiv]
      simp only [BitVec.ofNat_toNat, BitVec.setWidth_eq]
    simp only [bind, Except.bind, Word.quotient_of_ne_zero nonzero, ← index]
    rfl
  · rfl

theorem locateFrom_eq {first offset : BitVec 32} (placed : first.toNat + offset.toNat < UInt32.size) :
    extent.locateFrom first offset =
      if extent.columns * extent.rows < UInt32.size then .ok (.ofLinear extent (first.toNat + offset.toNat))
      else .error .product := by
  have sum : (first + offset).toNat = first.toNat + offset.toNat := by
    rw [BitVec.toNat_add]
    exact Nat.mod_eq_of_lt placed
  rw [locateFrom, Word.plus_of_fits placed, ← sum]
  exact extent.locate_eq (first + offset)

/-- The lanes are located one after the other, unless the counter cannot step past the last of them. -/
theorem locateLanes_eq {first counter : BitVec 32} {remaining : Nat}
    (placed : first.toNat + counter.toNat + remaining ≤ UInt32.size)
    (fits : remaining = 0 ∨ extent.columns * extent.rows < UInt32.size) :
    extent.locateLanes first remaining counter =
      if counter.toNat + remaining + 1 < UInt32.size then
        .ok ((List.range' counter.toNat remaining).map fun ln => .ofLinear extent (first.toNat + ln))
      else .error .counter := by
  induction remaining generalizing counter with
  | zero =>
      rw [locateLanes, Word.next_eq, Nat.add_zero]
      split <;> rfl
  | succ remaining ih =>
      have area := fits.resolve_left (Nat.succ_ne_zero remaining)
      rw [locateLanes, Word.next_eq]
      by_cases more : counter.toNat + 1 < UInt32.size
      · have stepped : (counter + 1).toNat = counter.toNat + 1 := by
          rw [BitVec.toNat_add]
          exact Nat.mod_eq_of_lt more
        have rest := @ih (counter + 1) (by omega) (.inr area)
        rw [stepped, Nat.add_right_comm counter.toNat 1] at rest
        rw [if_pos more, locateFrom_eq extent (by omega), if_pos area, List.range'_succ, List.map_cons]
        change (do return _ :: (← extent.locateLanes first remaining (counter + 1))) = _
        rw [rest, Nat.add_assoc counter.toNat remaining 1]
        split <;> rfl
      · rw [if_neg more, if_neg (by omega)]
        rfl

/-- The first lane already meets the fault. -/
theorem locateLanes_of_not_fits (first : BitVec 32) {lanes : Nat} (nonempty : lanes ≠ 0)
    (unfit : ¬ extent.columns * extent.rows < UInt32.size) : extent.locateLanes first lanes 0 = .error .product := by
  obtain ⟨remaining, rfl⟩ := Nat.exists_eq_succ_of_ne_zero nonempty
  have placed : first.toNat + (0 : BitVec 32).toNat < UInt32.size := first.isLt
  have located := (extent.locateFrom_eq placed).trans (if_neg unfit)
  rw [locateLanes, located]
  rfl

theorem locateCluster_eq (block : Dim3) :
    extent.locateCluster block = .ok (if extent.hasVolume then block.quotient extent else .zero) := by
  rw [locateCluster]
  split
  · rename_i volume
    simp only [hasVolume, Bool.and_eq_true, bne_iff_ne] at volume
    obtain ⟨⟨x, y⟩, z⟩ := volume
    simp only [Word.quotient_of_ne_zero x, Word.quotient_of_ne_zero y, Word.quotient_of_ne_zero z]
    rfl
  · rfl

end Dim3

namespace Snapshot

def locations (snapshot : Snapshot) (dev : Ordinal) (kernel : Kernel) (block : Dim3) (first : BitVec 32) :
    Except WordFault (Dim3 × List Dim3) := do
  let clusterDim := ((snapshot.grid (dev, kernel.grid)).map GridRecord.clusterDim).getD .zero
  let cluster ← clusterDim.locateCluster block
  let threads ← kernel.launch.blockDim.locateLanes first snapshot.shape.lanes.toNat 0
  return (cluster, threads)

variable {snapshot worked : Snapshot} {site : Site} {id : KernelId} {kernel : Kernel} {block : Dim3}
  {first active : BitVec 32}

theorem populate_eq_ok : snapshot.populate site id block first active = .ok worked ↔
    ∃ kernel, snapshot.kernels.find? id = some kernel ∧ snapshot.hasWarp site = true ∧
      snapshot.threadsFit kernel.launch.blockDim first = true ∧
      worked = (snapshot.changeSm site.dev site.sm fun sm => { sm with valid := true }).changeWarp site
        fun _ => snapshot.workingWarp site.dev kernel block first active := by
  rw [populate]
  cases found : snapshot.kernels.find? id with
  | none => simp
  | some kernel =>
      simp only [Option.some.injEq, exists_eq_left']
      split
      · rename_i inRange
        split
        · rename_i fits
          simp [inRange, fits, eq_comm]
        · rename_i unfit
          simp [unfit]
      · rename_i outside
        simp [outside]

theorem locateCluster_eq_clusterOf (dev : Ordinal) (grid : GridId) :
    (((snapshot.grid (dev, grid)).map GridRecord.clusterDim).getD .zero).locateCluster block =
      .ok (snapshot.clusterOf dev grid block) := by
  rw [Dim3.locateCluster_eq, clusterOf]
  cases snapshot.grid (dev, grid) <;> rfl

def PlaneFits (snapshot : Snapshot) (extent : Dim3) : Prop :=
  snapshot.shape.lanes = 0 ∨ extent.columns * extent.rows < UInt32.size

def CountsLanes (snapshot : Snapshot) : Prop :=
  snapshot.shape.lanes ≠ BitVec.allOnes 32

instance (snapshot : Snapshot) : Decidable snapshot.CountsLanes :=
  inferInstanceAs (Decidable (_ ≠ _))

theorem countsLanes_iff : snapshot.CountsLanes ↔ snapshot.shape.lanes.toNat + 1 < UInt32.size := by
  have := snapshot.shape.lanes.isLt
  rw [CountsLanes, ne_eq, ← BitVec.toNat_inj, BitVec.toNat_allOnes, UInt32.size]
  omega

theorem threadsFit_iff (placed : first.toNat + snapshot.shape.lanes.toNat ≤ UInt32.size) {extent : Dim3} :
    snapshot.threadsFit extent first = true ↔ snapshot.CountsLanes ∧ snapshot.PlaneFits extent := by
  simp [threadsFit, countsLanes_iff, PlaneFits, placed]

theorem locations_of_planeFits (placed : first.toNat + snapshot.shape.lanes.toNat ≤ UInt32.size)
    (fits : snapshot.PlaneFits kernel.launch.blockDim) (dev : Ordinal) (block : Dim3) :
    snapshot.locations dev kernel block first = if snapshot.shape.lanes.toNat + 1 < UInt32.size then
      .ok (snapshot.clusterOf dev kernel.grid block,
        (ordinals snapshot.shape.lanes).map fun ln => .ofLinear kernel.launch.blockDim (first.toNat + ln.toNat))
      else .error .counter := by
  have located := @Dim3.locateLanes_eq kernel.launch.blockDim first 0 _ placed (fits.imp_left (congrArg BitVec.toNat))
  have threads : (ordinals snapshot.shape.lanes).map
      (fun ln => Dim3.ofLinear kernel.launch.blockDim (first.toNat + ln.toNat)) =
        (List.range' 0 snapshot.shape.lanes.toNat).map fun ln => .ofLinear kernel.launch.blockDim (first.toNat + ln) := by
    rw [← List.range_eq_range', ← map_toNat_ordinals, List.map_map]
    rfl
  rw [locations, locateCluster_eq_clusterOf, threads]
  change (do let threads ← kernel.launch.blockDim.locateLanes first snapshot.shape.lanes.toNat 0; return (_, threads)) = _
  rw [located, show (0 : BitVec 32).toNat = 0 from rfl, Nat.zero_add]
  split <;> rfl

theorem locations_of_not_planeFits (unfit : ¬ snapshot.PlaneFits kernel.launch.blockDim) (dev : Ordinal)
    (block : Dim3) : snapshot.locations dev kernel block first = .error .product := by
  obtain ⟨lanes, area⟩ := not_or.mp unfit
  have nonempty : snapshot.shape.lanes.toNat ≠ 0 := fun same => lanes (BitVec.eq_of_toNat_eq same)
  rw [locations, locateCluster_eq_clusterOf]
  change (do let threads ← kernel.launch.blockDim.locateLanes first snapshot.shape.lanes.toNat 0; return (_, threads)) = _
  rw [Dim3.locateLanes_of_not_fits _ _ nonempty area]
  rfl

structure Computes (snapshot : Snapshot) (site : Site) (kernel : Kernel) (block : Dim3) (first active : BitVec 32) :
    Prop where
  done : snapshot.PlaneFits kernel.launch.blockDim → snapshot.CountsLanes → ∃ worked,
    snapshot.populate site kernel.id block first active = .ok worked ∧
      snapshot.locations site.dev kernel block first =
        .ok ((worked.warp site).cluster, (ordinals snapshot.shape.lanes).map fun ln => (worked.lane site ln).thread)
  uncounted : snapshot.PlaneFits kernel.launch.blockDim → ¬ snapshot.CountsLanes →
    snapshot.populate site kernel.id block first active = .error .overflow ∧
      snapshot.locations site.dev kernel block first = .error .counter
  failed : ¬ snapshot.PlaneFits kernel.launch.blockDim →
    snapshot.populate site kernel.id block first active = .error .overflow ∧
      snapshot.locations site.dev kernel block first = .error .product

/-- All other operations succeed: the sums stay within the words, and no divisor is zero. -/
theorem populate_computes (known : snapshot.kernels.find? kernel.id = some kernel)
    (inRange : snapshot.hasWarp site = true) (placed : first.toNat + snapshot.shape.lanes.toNat ≤ UInt32.size)
    (block : Dim3) (active : BitVec 32) : snapshot.Computes site kernel block first active := by
  have refused (unfit : ¬ (snapshot.CountsLanes ∧ snapshot.PlaneFits kernel.launch.blockDim)) :
      snapshot.populate site kernel.id block first active = .error .overflow := by
    simp only [populate, known, inRange, if_true, if_neg (mt (threadsFit_iff placed).mp unfit)]
  constructor
  case done =>
    intro fits counted
    refine ⟨_, populate_eq_ok.mpr ⟨kernel, known, inRange, (threadsFit_iff placed).mpr ⟨counted, fits⟩, rfl⟩, ?_⟩
    rw [locations_of_planeFits placed fits, if_pos (countsLanes_iff.mp counted)]
    simp only [lane, changeWarp, assign, if_true]
    rfl
  case uncounted =>
    intro fits uncounted
    refine ⟨refused fun both => uncounted both.1, ?_⟩
    rw [locations_of_planeFits placed fits, if_neg (mt countsLanes_iff.mpr uncounted)]
  case failed =>
    intro unfit
    exact ⟨refused fun both => unfit both.2, locations_of_not_planeFits unfit site.dev block⟩

def launching (lanes : Ordinal) (blockDim : Dim3) : Snapshot :=
  (Snapshot.ofShape ⟨1, 1, 1, lanes⟩).launch
    { kernel := 7, dev := 0, grid := 3, moduleId := 1, entry := 0x40, gridDim := ⟨4, 1, 1⟩, blockDim := blockDim,
      clusterDim := ⟨2, 1, 1⟩, type := .application, origin := .cpu, parent := none }

theorem launching_computes : ∃ kernel, (launching 2 ⟨3, 2, 1⟩).kernels.find? 7 = some kernel ∧
    (launching 2 ⟨3, 2, 1⟩).locations 0 kernel ⟨3, 0, 0⟩ 4 = .ok (⟨1, 0, 0⟩, [⟨1, 1, 0⟩, ⟨2, 1, 0⟩]) ∧
    (launching 2 ⟨3, 2, 1⟩).Computes ⟨0, 0, 0⟩ kernel ⟨3, 0, 0⟩ 4 1 ∧
    (launching (BitVec.allOnes 32) ⟨3, 2, 1⟩).populate ⟨0, 0, 0⟩ kernel.id .zero 1 1 = .error .overflow ∧
    (launching (BitVec.allOnes 32) ⟨3, 2, 1⟩).locations 0 kernel .zero 1 = .error .counter := by
  refine ⟨_, rfl, rfl, populate_computes rfl rfl (by decide) ⟨3, 0, 0⟩ 1, ?_⟩
  exact (populate_computes rfl rfl (by decide) .zero 1).uncounted (.inr (by decide)) (by decide)

/-- A plane of 65536 rows of 65536 threads does not fit. -/
theorem launching_overflows : ∃ kernel, (launching 2 ⟨65536, 65536, 1⟩).kernels.find? 7 = some kernel ∧
    (launching 2 ⟨65536, 65536, 1⟩).hasWarp ⟨0, 0, 0⟩ = true ∧
    (0 : BitVec 32).toNat + (launching 2 ⟨65536, 65536, 1⟩).shape.lanes.toNat ≤ UInt32.size ∧
    (launching 2 ⟨65536, 65536, 1⟩).locations 0 kernel .zero 0 = .error .product ∧
    (launching 2 ⟨65536, 65536, 1⟩).populate ⟨0, 0, 0⟩ kernel.id .zero 0 1 = .error .overflow :=
  ⟨_, rfl, rfl, by decide, rfl, rfl⟩

end Snapshot

end LaneScope
