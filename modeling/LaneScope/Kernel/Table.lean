import LaneScope.Kernel.Basic

/-!
The table of registered kernels, in ascending order of their identifiers.
-/

namespace LaneScope

structure KernelTable where
  kernels : List Kernel
  ascending : kernels.Pairwise fun left right => left.id.toNat < right.id.toNat

namespace KernelTable

def empty : KernelTable := ⟨[], .nil⟩

def find? (table : KernelTable) (id : KernelId) : Option Kernel :=
  table.kernels.find? fun kernel => kernel.id == id

/-- The kernel of a grid.  Where several share the grid, it is the one with the least identifier. -/
def findGrid (table : KernelTable) (dev : Ordinal) (grid : GridId) : Option Kernel :=
  table.kernels.find? fun kernel => kernel.dev == dev && kernel.grid == grid

def ids (table : KernelTable) : List KernelId :=
  table.kernels.map Kernel.id

def place (kernel : Kernel) : List Kernel → List Kernel
  | [] => [kernel]
  | first :: rest =>
    if kernel.id.toNat < first.id.toNat then kernel :: first :: rest
    else if first.id.toNat < kernel.id.toNat then first :: place kernel rest
    else kernel :: rest

theorem mem_place {kernel candidate : Kernel} {kernels : List Kernel}
    (member : candidate ∈ place kernel kernels) : candidate = kernel ∨ candidate ∈ kernels := by
  induction kernels with
  | nil => simpa [place] using member
  | cons first rest ih =>
    simp only [place] at member
    split at member
    · simpa using member
    · split at member
      · rcases List.mem_cons.mp member with same | later
        · exact .inr (by simp [same])
        · rcases ih later with new | old
          · exact .inl new
          · exact .inr (by simp [old])
      · rcases List.mem_cons.mp member with same | later
        · exact .inl same
        · exact .inr (by simp [later])

theorem place_ascending (kernel : Kernel) {kernels : List Kernel}
    (ascending : kernels.Pairwise fun left right => left.id.toNat < right.id.toNat) :
    (place kernel kernels).Pairwise fun left right => left.id.toNat < right.id.toNat := by
  induction kernels with
  | nil => simp [place]
  | cons first rest ih =>
    have above := (List.pairwise_cons.mp ascending).1
    have tail := (List.pairwise_cons.mp ascending).2
    simp only [place]
    split
    · rename_i below
      refine List.pairwise_cons.mpr ⟨fun later member => ?_, ascending⟩
      rcases List.mem_cons.mp member with same | deeper
      · rwa [same]
      · exact Nat.lt_trans below (above later deeper)
    · split
      · rename_i beyond
        refine List.pairwise_cons.mpr ⟨fun later member => ?_, ih tail⟩
        rcases mem_place member with new | old
        · rwa [new]
        · exact above later old
      · refine List.pairwise_cons.mpr ⟨fun later member => ?_, tail⟩
        have gap := above later member
        omega

def insert (table : KernelTable) (kernel : Kernel) : KernelTable :=
  ⟨place kernel table.kernels, place_ascending kernel table.ascending⟩

def erase (table : KernelTable) (id : KernelId) : KernelTable :=
  ⟨table.kernels.filter fun kernel => kernel.id != id, table.ascending.filter _⟩

def revise (table : KernelTable) (change : Kernel → Kernel)
    (keeps : ∀ kernel, (change kernel).launch = kernel.launch) : KernelTable where
  kernels := table.kernels.map change
  ascending := by
    simp only [List.pairwise_map, Kernel.id, keeps]
    exact table.ascending

def reviseAt (table : KernelTable) (id : KernelId) (change : Kernel → Kernel)
    (keeps : ∀ kernel, (change kernel).launch = kernel.launch) : KernelTable :=
  table.revise (fun kernel => if kernel.id = id then change kernel else kernel)
    (fun kernel => by split <;> simp [keeps])

def setLaunched (table : KernelTable) (id : KernelId) (launched : Bool) : KernelTable :=
  table.reviseAt id (fun kernel => { kernel with launched }) fun _ => rfl

def setDepth (table : KernelTable) (id : KernelId) (depth : Nat) : KernelTable :=
  table.reviseAt id (fun kernel => { kernel with depth := some depth }) fun _ => rfl

def setClusterDim (table : KernelTable) (id : KernelId) (dim : Dim3) : KernelTable :=
  table.reviseAt id (fun kernel => { kernel with clusterDim := some dim }) fun _ => rfl

def setGridStatus (table : KernelTable) (id : KernelId) (status : GridStatus) : KernelTable :=
  table.reviseAt id (fun kernel => { kernel with gridStatus := some status }) fun _ => rfl

def setArguments (table : KernelTable) (id : KernelId) (arguments : Arguments) : KernelTable :=
  table.reviseAt id (fun kernel => { kernel with arguments }) fun _ => rfl

def invalidate (table : KernelTable) (id : KernelId) : KernelTable :=
  table.reviseAt id Kernel.invalidate fun _ => rfl

def invalidateAll (table : KernelTable) : KernelTable :=
  table.revise Kernel.invalidate fun _ => rfl

def children (table : KernelTable) (kernel : Kernel) : List Kernel :=
  table.kernels.filter fun child => child.dev == kernel.dev && child.launch.parent == some kernel.grid

def size (table : KernelTable) : Nat := table.kernels.length

end KernelTable

end LaneScope
