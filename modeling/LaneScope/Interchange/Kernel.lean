import LaneScope.Interchange.Coord
import LaneScope.Device.Snapshot
import LaneScope.Settings

/-!
Interchange forms of kernels, of what is known about them, and of settings.
-/

namespace LaneScope

def KernelType.name : KernelType → String
  | system => "System"
  | application => "Application"

instance : Interchange KernelType where
  encode type := .text type.name
  decode := Value.oneOf [.system, .application] KernelType.name

def LaunchOrigin.name : LaunchOrigin → String
  | cpu => "Cpu"
  | gpu => "Gpu"

instance : Interchange LaunchOrigin where
  encode origin := .text origin.name
  decode := Value.oneOf [.cpu, .gpu] LaunchOrigin.name

def GridStatus.name : GridStatus → String
  | invalid => "Invalid"
  | pending => "Pending"
  | active => "Active"
  | sleeping => "Sleeping"
  | terminated => "Terminated"
  | undetermined => "Undetermined"

instance : Interchange GridStatus where
  encode status := .text status.name
  decode :=
    Value.oneOf [.invalid, .pending, .active, .sleeping, .terminated, .undetermined] GridStatus.name

structure GridInfo where
  clusterDim : Dim3
deriving DecidableEq

instance : Interchange GridInfo where
  encode info := .record [("cluster_dim", Interchange.encode info.clusterDim)]
  decode value := do
    let [clusterDim] ← value.fields ["cluster_dim"] | none
    return ⟨← Value.required clusterDim⟩

def LaneException.bareName : LaneException → String
  | illegalAddress => "IllegalAddress"
  | illegalInstruction => "IllegalInstruction"
  | misalignedAddress => "MisalignedAddress"
  | warpAssert => "WarpAssert"
  | stackOverflow => "StackOverflow"
  | other _ => "Other"

instance : Interchange LaneException where
  encode
    | .other code => .record [("Other", .number code.toNat)]
    | exception => .text exception.bareName
  decode value :=
    match value.content? "Other" with
    | some code => (Interchange.decode code).map .other
    | none =>
      value.oneOf [.illegalAddress, .illegalInstruction, .misalignedAddress, .warpAssert, .stackOverflow]
        LaneException.bareName

instance : Interchange Launch where
  encode launch :=
    .record
      [("kernel_id", Interchange.encode launch.kernel), ("dev", Interchange.encode launch.dev),
        ("grid_id", Interchange.encode launch.grid), ("module_id", Interchange.encode launch.moduleId),
        ("entry", Interchange.encode launch.entry), ("grid_dim", Interchange.encode launch.gridDim),
        ("block_dim", Interchange.encode launch.blockDim),
        ("cluster_dim", Interchange.encode launch.clusterDim),
        ("kernel_type", Interchange.encode launch.type), ("origin", Interchange.encode launch.origin),
        ("parent_grid_id", (launch.parent.map Interchange.encode).getD .null)]
  decode value := do
    let [kernel, dev, grid, moduleId, entry, gridDim, blockDim, clusterDim, type, origin, parent] ←
      value.fields ["kernel_id", "dev", "grid_id", "module_id", "entry", "grid_dim", "block_dim",
        "cluster_dim", "kernel_type", "origin", "parent_grid_id"] | none
    return {
      kernel := ← Value.required kernel
      dev := ← Value.required dev
      grid := ← Value.required grid
      moduleId := ← Value.required moduleId
      entry := ← Value.required entry
      gridDim := ← Value.required gridDim
      blockDim := ← Value.required blockDim
      clusterDim := ← Value.required clusterDim
      type := ← Value.required type
      origin := ← Value.required origin
      parent := ← Value.optional parent }

instance : Interchange Settings where
  encode settings :=
    .record [("kernel_events_depth", Interchange.encode settings.eventDepth),
      ("kernel_events_system", Interchange.encode settings.systemEvents),
      ("kernel_events_application", Interchange.encode settings.applicationEvents)]
  decode value := do
    let defaults : Settings := {}
    let [depth, system, application] ←
      value.openFields ["kernel_events_depth", "kernel_events_system", "kernel_events_application"] | none
    return ⟨← Value.withDefault defaults.eventDepth depth,
      ← Value.withDefault defaults.systemEvents system,
      ← Value.withDefault defaults.applicationEvents application⟩

end LaneScope
