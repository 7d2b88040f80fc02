import LaneScope.Kernel.Table
import LaneScope.Settings

/-!
Nesting depths.  A kernel without a parent grid has depth zero, and any other one more than the kernel of its parent
grid.  A depth is worked out once and then kept, so it outlives the kernels above.
-/

namespace LaneScope

inductive DepthFault where
  | missingParent (kernel : KernelId) (grid : GridId) (dev : Ordinal)
  | cyclic (kernel : KernelId)
deriving DecidableEq

def DepthFault.message : DepthFault → String
  | missingParent kernel grid dev =>
    "kernel " ++ toString kernel.toNat ++ ": parent grid " ++ toString grid.toNat ++
      " not found on device " ++ toString dev.toNat
  | cyclic kernel => "kernel " ++ toString kernel.toNat ++ ": parent grids form a cycle"

namespace KernelTable

/-- Climbs at most the given number of kernels, up to a root or a kernel with a known depth.  Gives the depth, and
all depths worked out on the way.

The sums are those of 32-bit words, where none exceeds the word: a depth is less than the number of launches
(`TableHistory.TellsDepths.bounded`), and less than the size of the table when no depth was kept from before
(`KernelTable.DepthsAgree.told`). -/
def climb (table : KernelTable) : Nat → Kernel → Except DepthFault (Nat × List (KernelId × Nat))
  | 0, kernel => .error (.cyclic kernel.id)
  | steps + 1, kernel =>
    match kernel.depth with
    | some depth => .ok (depth, [])
    | none =>
      match kernel.launch.parent with
      | none => .ok (0, [(kernel.id, 0)])
      | some grid =>
        match table.findGrid kernel.dev grid with
        | none => .error (.missingParent kernel.id grid kernel.dev)
        | some parent =>
          match table.climb steps parent with
          | .error fault => .error fault
          | .ok (depth, learnt) => .ok (depth + 1, (kernel.id, depth + 1) :: learnt)

/-- The depth of a kernel, and the table with the depths learnt by the climb.  A climb that does not repeat itself
visits no more kernels than there are in the table. -/
def depth (table : KernelTable) (kernel : Kernel) : Except DepthFault (Nat × KernelTable) :=
  match table.climb table.size kernel with
  | .error fault => .error fault
  | .ok (depth, learnt) =>
    .ok (depth, learnt.foldl (fun table (id, depth) => table.setDepth id depth) table)

def reports (table : KernelTable) (settings : Settings) (kernel : Kernel) :
    Except DepthFault (Bool × KernelTable) :=
  let byType :=
    match kernel.launch.type with
    | .system => settings.systemEvents
    | .application => settings.applicationEvents
  if settings.eventDepth = 0 then .ok (byType, table)
  else
    match table.depth kernel with
    | .error fault => .error fault
    | .ok (depth, table) => .ok (byType && decide (depth < settings.eventDepth.toNat), table)

end KernelTable

end LaneScope
