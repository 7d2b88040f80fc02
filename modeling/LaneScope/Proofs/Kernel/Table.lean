import LaneScope.Kernel.Table

/-!
Look-ups in the table of kernels.  A look-up finds a kernel exactly when the table has it, and each operation is
described by the kernels that the table has afterwards.  What is kept about kernels changes no launch.
-/

namespace LaneScope.KernelTable

variable {table : KernelTable} {kernel candidate : Kernel} {id : KernelId} {dev : Ordinal} {grid : GridId}

theorem eq_of_ascending {kernels : List Kernel}
    (ascending : kernels.Pairwise fun left right => left.id.toNat < right.id.toNat) (member : kernel ∈ kernels)
    (candidateMember : candidate ∈ kernels) (same : kernel.id = candidate.id) : kernel = candidate := by
  induction kernels with
  | nil => simp at member
  | cons first rest ih =>
      obtain ⟨above, tail⟩ := List.pairwise_cons.mp ascending
      rcases List.mem_cons.mp member with rfl | later
      · rcases List.mem_cons.mp candidateMember with rfl | candidateLater
        · rfl
        · exact (Nat.ne_of_lt (above candidate candidateLater) (congrArg BitVec.toNat same)).elim
      · rcases List.mem_cons.mp candidateMember with rfl | candidateLater
        · exact (Nat.ne_of_gt (above kernel later) (congrArg BitVec.toNat same)).elim
        · exact ih tail later candidateLater

theorem eq_of_id_eq (member : kernel ∈ table.kernels) (candidateMember : candidate ∈ table.kernels)
    (same : kernel.id = candidate.id) : kernel = candidate :=
  eq_of_ascending table.ascending member candidateMember same

theorem eq_of_kernels_eq {other : KernelTable} (same : table.kernels = other.kernels) : table = other := by
  obtain ⟨kernels, ascending⟩ := table
  subst same
  rfl

def launches (table : KernelTable) : List Launch :=
  table.kernels.map Kernel.launch

variable {launch : Launch}

theorem mem_launches : launch ∈ table.launches ↔ ∃ kernel ∈ table.kernels, kernel.launch = launch :=
  List.mem_map

theorem launch_mem_launches (member : kernel ∈ table.kernels) : kernel.launch ∈ table.launches :=
  List.mem_map_of_mem member

theorem eq_launch_of_id_eq (member : launch ∈ table.launches) (kernelMember : kernel ∈ table.kernels)
    (same : launch.kernel = kernel.id) : launch = kernel.launch := by
  obtain ⟨candidate, candidateMember, rfl⟩ := mem_launches.mp member
  rw [eq_of_id_eq candidateMember kernelMember same]

theorem launches_nodup (table : KernelTable) : table.launches.Nodup := by
  rw [launches, List.nodup_iff_pairwise_ne, List.pairwise_map]
  apply table.ascending.imp
  intro left right less same
  rw [Kernel.id, Kernel.id, same] at less
  exact Nat.lt_irrefl _ less

theorem kernels_nodup (table : KernelTable) : table.kernels.Nodup := by
  refine List.Pairwise.of_map Kernel.launch ?_ table.launches_nodup
  intro left right different same
  exact different (congrArg Kernel.launch same)

theorem size_eq_length_launches (table : KernelTable) : table.size = table.launches.length :=
  (List.length_map _).symm

theorem find?_eq_none : table.find? id = none ↔ ∀ launch ∈ table.launches, launch.kernel ≠ id := by
  simp [find?, launches, Kernel.id]

theorem find?_eq_some : table.find? id = some kernel ↔ kernel ∈ table.kernels ∧ kernel.id = id := by
  constructor
  · intro found
    exact ⟨List.mem_of_find?_eq_some found, by simpa using List.find?_some found⟩
  · rintro ⟨member, rfl⟩
    cases found : table.find? kernel.id with
    | none => exact (find?_eq_none.mp found kernel.launch (launch_mem_launches member) rfl).elim
    | some candidate =>
        have candidateMember := List.mem_of_find?_eq_some found
        have same : candidate.id = kernel.id := by simpa using List.find?_some found
        rw [eq_of_id_eq candidateMember member same]

theorem findGrid_eq_none : table.findGrid dev grid = none ↔
    ∀ launch ∈ table.launches, launch.dev = dev → launch.grid ≠ grid := by
  simp [findGrid, launches, Kernel.dev, Kernel.grid]

theorem both_of_map_eq {α β γ : Type} {left : Option α} {right : Option β} {view : α → γ} {otherView : β → γ}
    (same : right.map otherView = left.map view) : (left = none ∧ right = none) ∨
      ∃ found otherFound, left = some found ∧ right = some otherFound ∧ otherView otherFound = view found := by
  cases left with
  | none => exact .inl ⟨rfl, Option.map_eq_none_iff.mp same⟩
  | some found =>
      obtain ⟨otherFound, rfl, alike⟩ := Option.map_eq_some_iff.mp same
      exact .inr ⟨found, otherFound, rfl, rfl, alike⟩

theorem map_launch_find? (table : KernelTable) (id : KernelId) : (table.find? id).map Kernel.launch =
    table.launches.find? fun launch => launch.kernel == id := by
  rw [find?, launches, List.find?_map]
  rfl

def GridsDistinct (table : KernelTable) : Prop :=
  ∀ launch ∈ table.launches, ∀ other ∈ table.launches,
    launch.dev = other.dev → launch.grid = other.grid → launch.kernel = other.kernel

theorem findGrid_of_alone (member : kernel ∈ table.kernels) (alone : ∀ other ∈ table.kernels,
    other.dev = kernel.dev → other.grid = kernel.grid → other.id = kernel.id) :
    table.findGrid kernel.dev kernel.grid = some kernel := by
  cases found : table.findGrid kernel.dev kernel.grid with
  | none => exact (findGrid_eq_none.mp found kernel.launch (launch_mem_launches member) rfl rfl).elim
  | some candidate =>
      have candidateMember := List.mem_of_find?_eq_some found
      have same : candidate.dev = kernel.dev ∧ candidate.grid = kernel.grid := by simpa using List.find?_some found
      rw [eq_of_id_eq candidateMember member (alone candidate candidateMember same.1 same.2)]

theorem findGrid_of_mem (distinct : table.GridsDistinct) (member : kernel ∈ table.kernels) :
    table.findGrid kernel.dev kernel.grid = some kernel :=
  findGrid_of_alone member fun _ otherMember =>
    distinct _ (launch_mem_launches otherMember) _ (launch_mem_launches member)

theorem findGrid_eq_some (distinct : table.GridsDistinct) : table.findGrid dev grid = some kernel ↔
    kernel ∈ table.kernels ∧ kernel.dev = dev ∧ kernel.grid = grid := by
  constructor
  · intro found
    exact ⟨List.mem_of_find?_eq_some found, by simpa using List.find?_some found⟩
  · rintro ⟨member, rfl, rfl⟩
    exact findGrid_of_mem distinct member

theorem GridsDistinct.congr {other : KernelTable} (distinct : table.GridsDistinct)
    (same : other.launches = table.launches) : other.GridsDistinct := by
  rwa [GridsDistinct, same]

theorem mem_place_iff {kernels : List Kernel}
    (ascending : kernels.Pairwise fun left right => left.id.toNat < right.id.toNat) :
    candidate ∈ place kernel kernels ↔ candidate = kernel ∨ (candidate ∈ kernels ∧ candidate.id ≠ kernel.id) := by
  induction kernels with
  | nil => simp [place]
  | cons first rest ih =>
      obtain ⟨above, tail⟩ := List.pairwise_cons.mp ascending
      have apart (later : Kernel) (less : kernel.id.toNat < later.id.toNat) : later.id ≠ kernel.id :=
        fun same => Nat.ne_of_gt less (congrArg BitVec.toNat same)
      have apartRest (bound : kernel.id.toNat ≤ first.id.toNat) : ∀ later ∈ rest, later.id ≠ kernel.id :=
        fun later member => apart later (Nat.lt_of_le_of_lt bound (above later member))
      rw [place]
      split
      · rename_i below
        simp only [List.mem_cons]
        constructor
        · rintro (rfl | rfl | member)
          · exact .inl rfl
          · exact .inr ⟨.inl rfl, apart _ below⟩
          · exact .inr ⟨.inr member, apartRest (Nat.le_of_lt below) _ member⟩
        · rintro (rfl | ⟨member, -⟩)
          · exact .inl rfl
          · exact .inr member
      · split
        · rename_i beyond
          have firstApart : first.id ≠ kernel.id := fun same => Nat.ne_of_lt beyond (congrArg BitVec.toNat same)
          rw [List.mem_cons, ih tail, List.mem_cons]
          constructor
          · rintro (rfl | rfl | ⟨member, different⟩)
            · exact .inr ⟨.inl rfl, firstApart⟩
            · exact .inl rfl
            · exact .inr ⟨.inr member, different⟩
          · rintro (rfl | ⟨rfl | member, different⟩)
            · exact .inr (.inl rfl)
            · exact .inl rfl
            · exact .inr (.inr ⟨member, different⟩)
        · rename_i notBelow notBeyond
          have same : first.id = kernel.id := BitVec.eq_of_toNat_eq (by omega)
          rw [List.mem_cons, List.mem_cons]
          constructor
          · rintro (rfl | member)
            · exact .inl rfl
            · exact .inr ⟨.inr member, apartRest (by omega) _ member⟩
          · rintro (rfl | ⟨rfl | member, different⟩)
            · exact .inl rfl
            · exact (different same).elim
            · exact .inr member

theorem mem_insert : candidate ∈ (table.insert kernel).kernels ↔
    candidate = kernel ∨ (candidate ∈ table.kernels ∧ candidate.id ≠ kernel.id) :=
  mem_place_iff table.ascending

theorem mem_erase : kernel ∈ (table.erase id).kernels ↔ kernel ∈ table.kernels ∧ kernel.id ≠ id := by
  simp [erase]

theorem mem_launches_insert : launch ∈ (table.insert kernel).launches ↔
    launch = kernel.launch ∨ (launch ∈ table.launches ∧ launch.kernel ≠ kernel.id) := by
  simp only [mem_launches, mem_insert]
  constructor
  · rintro ⟨candidate, rfl | ⟨member, different⟩, rfl⟩
    · exact .inl rfl
    · exact .inr ⟨⟨candidate, member, rfl⟩, different⟩
  · rintro (rfl | ⟨⟨candidate, member, rfl⟩, different⟩)
    · exact ⟨kernel, .inl rfl, rfl⟩
    · exact ⟨candidate, .inr ⟨member, different⟩, rfl⟩

theorem mem_launches_erase :
    launch ∈ (table.erase id).launches ↔ launch ∈ table.launches ∧ launch.kernel ≠ id := by
  simp only [mem_launches, mem_erase]
  constructor
  · rintro ⟨kernel, ⟨member, different⟩, rfl⟩
    exact ⟨⟨kernel, member, rfl⟩, different⟩
  · rintro ⟨⟨kernel, member, rfl⟩, different⟩
    exact ⟨kernel, ⟨member, different⟩, rfl⟩

theorem find?_erase_self (table : KernelTable) (id : KernelId) : (table.erase id).find? id = none := by
  rw [find?_eq_none]
  intro launch member
  exact (mem_launches_erase.mp member).2

theorem find?_erase_of_ne {erased : KernelId} (different : id ≠ erased) :
    (table.erase erased).find? id = table.find? id := by
  apply Option.ext
  intro kernel
  simp only [find?_eq_some, mem_erase, and_assoc]
  apply and_congr_right
  intro _
  constructor
  · exact And.right
  · rintro rfl
    exact ⟨different, rfl⟩

theorem find?_insert_self (table : KernelTable) (kernel : Kernel) : (table.insert kernel).find? kernel.id = some kernel :=
  find?_eq_some.mpr ⟨mem_insert.mpr (.inl rfl), rfl⟩

theorem find?_insert_of_ne (different : id ≠ kernel.id) : (table.insert kernel).find? id = table.find? id := by
  apply Option.ext
  intro found
  simp only [find?_eq_some, mem_insert]
  constructor
  · rintro ⟨rfl | ⟨member, -⟩, rfl⟩
    · exact (different rfl).elim
    · exact ⟨member, rfl⟩
  · rintro ⟨member, rfl⟩
    exact ⟨.inr ⟨member, different⟩, rfl⟩

theorem GridsDistinct.erase (distinct : table.GridsDistinct) (id : KernelId) : (table.erase id).GridsDistinct := by
  intro launch member other otherMember
  exact distinct launch (mem_launches_erase.mp member).1 other (mem_launches_erase.mp otherMember).1

theorem launches_revise (table : KernelTable) (change : Kernel → Kernel)
    (keeps : ∀ kernel, (change kernel).launch = kernel.launch) : (table.revise change keeps).launches = table.launches := by
  rw [launches, revise, List.map_map]
  exact List.map_congr_left fun kernel _ => keeps kernel

theorem launches_reviseAt (table : KernelTable) (id : KernelId) (change : Kernel → Kernel)
    (keeps : ∀ kernel, (change kernel).launch = kernel.launch) :
    (table.reviseAt id change keeps).launches = table.launches :=
  launches_revise table _ _

theorem find?_revise (table : KernelTable) (change : Kernel → Kernel)
    (keeps : ∀ kernel, (change kernel).launch = kernel.launch) (id : KernelId) :
    (table.revise change keeps).find? id = (table.find? id).map change := by
  have sameId : (fun kernel : Kernel => kernel.id == id) ∘ change = fun kernel => kernel.id == id := by
    funext kernel
    simp only [Function.comp_apply, Kernel.id, keeps]
  rw [find?, revise, List.find?_map, sameId, find?]

theorem findGrid_revise (table : KernelTable) (change : Kernel → Kernel)
    (keeps : ∀ kernel, (change kernel).launch = kernel.launch) (dev : Ordinal) (grid : GridId) :
    (table.revise change keeps).findGrid dev grid = (table.findGrid dev grid).map change := by
  have samePlace : (fun kernel : Kernel => kernel.dev == dev && kernel.grid == grid) ∘ change =
      fun kernel => kernel.dev == dev && kernel.grid == grid := by
    funext kernel
    simp only [Function.comp_apply, Kernel.dev, Kernel.grid, keeps]
  rw [findGrid, revise, List.find?_map, samePlace, findGrid]

theorem find?_reviseAt (table : KernelTable) (revised : KernelId) (change : Kernel → Kernel)
    (keeps : ∀ kernel, (change kernel).launch = kernel.launch) (id : KernelId) :
    (table.reviseAt revised change keeps).find? id =
      if id = revised then (table.find? id).map change else table.find? id := by
  rw [reviseAt, find?_revise]
  cases found : table.find? id with
  | none => simp
  | some kernel =>
      obtain ⟨-, rfl⟩ := find?_eq_some.mp found
      split <;> simp_all

theorem find?_invalidateAll (known : table.find? id = some kernel) :
    table.invalidateAll.find? id = some kernel.invalidate :=
  (find?_revise table Kernel.invalidate (fun _ => rfl) id).trans (congrArg _ known)

theorem find?_invalidate (known : table.find? id = some kernel) (dropped : KernelId) :
    (table.invalidate dropped).find? id = some (if id = dropped then kernel.invalidate else kernel) := by
  have found := find?_reviseAt table dropped Kernel.invalidate (fun _ => rfl) id
  rw [known] at found
  refine found.trans ?_
  split <;> rfl

theorem find?_setArguments (known : table.find? id = some kernel) (settled : KernelId) (arguments : Arguments) :
    (table.setArguments settled arguments).find? id = some (if id = settled then { kernel with arguments } else kernel) := by
  rw [setArguments, find?_reviseAt, known]
  split <;> rfl

theorem find?_setLaunched (known : table.find? id = some kernel) (marked : KernelId) (mark : Bool) :
    ∃ launched depth, (table.setLaunched marked mark).find? id = some { kernel with launched, depth } := by
  rw [setLaunched, find?_reviseAt, known]
  split
  · exact ⟨mark, kernel.depth, rfl⟩
  · exact ⟨kernel.launched, kernel.depth, rfl⟩

theorem find?_setDepth (known : table.find? id = some kernel) (measured : KernelId) (measure : Nat) :
    ∃ launched depth, (table.setDepth measured measure).find? id = some { kernel with launched, depth } := by
  rw [setDepth, find?_reviseAt, known]
  split
  · exact ⟨kernel.launched, some measure, rfl⟩
  · exact ⟨kernel.launched, kernel.depth, rfl⟩

theorem find?_foldl {α : Type} {change : KernelTable → α → KernelTable}
    (keeps : ∀ {table kernel} item, table.find? id = some kernel →
      ∃ launched depth, (change table item).find? id = some { kernel with launched, depth })
    (known : table.find? id = some kernel) (items : List α) :
    ∃ launched depth, (items.foldl change table).find? id = some { kernel with launched, depth } := by
  induction items generalizing table kernel with
  | nil => exact ⟨kernel.launched, kernel.depth, known⟩
  | cons item items ih =>
      obtain ⟨launched, depth, found⟩ := keeps item known
      have foundLater := ih found
      exact foundLater

theorem map_launch_place {other : Kernel} (launch : other.launch = kernel.launch) {kernels others : List Kernel}
    (same : others.map Kernel.launch = kernels.map Kernel.launch) :
    (place other others).map Kernel.launch = (place kernel kernels).map Kernel.launch := by
  induction kernels generalizing others with
  | nil =>
      rw [List.map_nil, List.map_eq_nil_iff] at same
      subst same
      simp [place, launch]
  | cons first rest ih =>
      obtain ⟨otherFirst, otherRest, rfl, sameFirst, sameRest⟩ := List.map_eq_cons_iff.mp same
      simp only [place, Kernel.id, launch, sameFirst]
      by_cases below : kernel.launch.kernel.toNat < first.launch.kernel.toNat
      · simp [below, launch, sameFirst, sameRest]
      · by_cases above : first.launch.kernel.toNat < kernel.launch.kernel.toNat
        · simp [below, above, sameFirst, ih sameRest]
        · simp [below, above, launch, sameRest]

theorem launches_insert_congr {other : KernelTable} {kernel' : Kernel}
    (launch : kernel'.launch = kernel.launch) (same : other.launches = table.launches) :
    (other.insert kernel').launches = (table.insert kernel).launches :=
  map_launch_place launch same

theorem launches_erase (table : KernelTable) (id : KernelId) :
    (table.erase id).launches = table.launches.filter fun launch => launch.kernel != id := by
  rw [launches, launches, erase, List.filter_map]
  rfl

def keptExtents (table : KernelTable) : List (Launch × Option Dim3) :=
  table.kernels.map fun kernel => (kernel.launch, kernel.clusterDim)

theorem launches_eq_of_keptExtents_eq {other : KernelTable} (same : table.keptExtents = other.keptExtents) :
    table.launches = other.launches := by
  have projected (table : KernelTable) : table.launches = table.keptExtents.map Prod.fst := by
    rw [launches, keptExtents, List.map_map]
    rfl
  rw [projected, projected, same]

theorem keptExtents_revise (table : KernelTable) (change : Kernel → Kernel)
    (keeps : ∀ kernel, (change kernel).launch = kernel.launch)
    (keepsDim : ∀ kernel, (change kernel).clusterDim = kernel.clusterDim) :
    (table.revise change keeps).keptExtents = table.keptExtents := by
  rw [keptExtents, revise, List.map_map]
  apply List.map_congr_left
  intro kernel _
  simp only [Function.comp_apply, keeps, keepsDim]

theorem keptExtents_reviseAt (table : KernelTable) (id : KernelId) (change : Kernel → Kernel)
    (keeps : ∀ kernel, (change kernel).launch = kernel.launch)
    (keepsDim : ∀ kernel, (change kernel).clusterDim = kernel.clusterDim) :
    (table.reviseAt id change keeps).keptExtents = table.keptExtents := by
  apply keptExtents_revise
  intro kernel
  split <;> simp [keepsDim]

@[simp] theorem keptExtents_setLaunched (table : KernelTable) (id : KernelId) (launched : Bool) :
    (table.setLaunched id launched).keptExtents = table.keptExtents :=
  keptExtents_reviseAt table id _ _ fun _ => rfl

@[simp] theorem keptExtents_setDepth (table : KernelTable) (id : KernelId) (depth : Nat) :
    (table.setDepth id depth).keptExtents = table.keptExtents :=
  keptExtents_reviseAt table id _ _ fun _ => rfl

@[simp] theorem keptExtents_setGridStatus (table : KernelTable) (id : KernelId) (status : GridStatus) :
    (table.setGridStatus id status).keptExtents = table.keptExtents :=
  keptExtents_reviseAt table id _ _ fun _ => rfl

@[simp] theorem keptExtents_setArguments (table : KernelTable) (id : KernelId) (arguments : Arguments) :
    (table.setArguments id arguments).keptExtents = table.keptExtents :=
  keptExtents_reviseAt table id _ _ fun _ => rfl

theorem keptExtents_foldl {α : Type} (change : KernelTable → α → KernelTable)
    (keeps : ∀ table item, (change table item).keptExtents = table.keptExtents) (items : List α) (table : KernelTable) :
    (items.foldl change table).keptExtents = table.keptExtents := by
  induction items generalizing table with
  | nil => rfl
  | cons item items ih => rw [List.foldl_cons, ih, keeps]

end LaneScope.KernelTable
