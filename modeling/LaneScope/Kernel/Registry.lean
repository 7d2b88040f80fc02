import LaneScope.Kernel.Table
import LaneScope.Event

/-!
Registration of kernels, with the events that go with it.
-/

namespace LaneScope.KernelTable

def register (table : KernelTable) (kernel : Kernel) : Option Kernel × KernelTable × List Event :=
  (table.find? kernel.id, table.insert kernel, [.kernelCreated kernel.id kernel.name])

def unregister (table : KernelTable) (id : KernelId) : Option Kernel × KernelTable × List Event :=
  match table.find? id with
  | some kernel => (some kernel, table.erase id, [.kernelDestroyed id])
  | none => (none, table, [])

end LaneScope.KernelTable
