import LaneScope.Query.CoordSet

/-!
Queries of a fixed form: those that choose where a debugger looks, those that pass from one addressing to the
other, and those that say where kernels are resident.
-/

namespace LaneScope.Focus

def validThread : Query where
  granularity := .threads
  select := { valid := true, single := true }

def trap : Query where
  granularity := .threads
  select := { valid := true, trap := true, currentClock := true, single := true }

def exception : Query where
  granularity := .lanes
  select := { exception := true, single := true }

def breakpointNear (origin : Coords) : Query where
  granularity := .lanes
  select := { valid := true, breakpoint := true }
  comparator := ⟨.physical, some origin⟩

def threadOn (address : Physical) : Query where
  granularity := .threads
  filter := { physical := address }
  select := { valid := true, single := true }

def threadOf (address : Logical) : Query where
  granularity := .threads
  filter := { logical := address }
  select := { valid := true, single := true }

def residentKernels : Query where
  granularity := .kernels
  select := { valid := true }

def smsOf (kernel : Kernel) : Query where
  granularity := .sms
  filter := { physical := { dev := .value kernel.dev }, logical := { kernel := .value kernel.id } }
  select := { valid := true }
  comparator := { addressing := .physical }

end LaneScope.Focus
