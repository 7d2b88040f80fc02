import LaneScope.Interchange.Value
import LaneScope.Coord.Granularity
import LaneScope.Coord.Comparator

/-!
Interchange forms of coordinates.
-/

namespace LaneScope

instance : Interchange Dim3 where
  encode dim :=
    .record [("x", .number dim.x.toNat), ("y", .number dim.y.toNat), ("z", .number dim.z.toNat)]
  decode value := do
    let [x, y, z] ← value.fields ["x", "y", "z"] | none
    return ⟨← Value.required x, ← Value.required y, ← Value.required z⟩

instance {width : Nat} : Interchange (Field width) where
  encode
    | .value word => .record [("Value", .number word.toNat)]
    | .wildcard => .text "Wildcard"
    | .invalid => .text "Invalid"
  decode value :=
    match value.content? "Value" with
    | some content => (Interchange.decode content).map .value
    | none =>
      match value.bareName? with
      | some "Wildcard" => some .wildcard
      | some "Invalid" => some .invalid
      | _ => none

instance : Interchange Index3 where
  encode
    | .axes x y z =>
      .record [("At", .list [Interchange.encode x, Interchange.encode y, Interchange.encode z])]
    | .inapplicable => .text "Ignore"
  decode value :=
    match value.content? "At" with
    | some (.list [x, y, z]) =>
      return .axes (← Interchange.decode x) (← Interchange.decode y) (← Interchange.decode z)
    | some _ => none
    | none =>
      match value.bareName? with
      | some "Ignore" => some .inapplicable
      | _ => none

instance : Interchange Physical where
  encode address :=
    .record [("dev", Interchange.encode address.dev), ("sm", Interchange.encode address.sm),
      ("wp", Interchange.encode address.wp), ("ln", Interchange.encode address.ln)]
  decode value := do
    let [dev, sm, wp, ln] ← value.fields ["dev", "sm", "wp", "ln"] | none
    return ⟨← Value.required dev, ← Value.required sm, ← Value.required wp, ← Value.required ln⟩

instance : Interchange Logical where
  encode address :=
    .record [("kernel_id", Interchange.encode address.kernel), ("grid_id", Interchange.encode address.grid),
      ("cluster_idx", Interchange.encode address.cluster), ("block_idx", Interchange.encode address.block),
      ("thread_idx", Interchange.encode address.thread)]
  decode value := do
    let [kernel, grid, cluster, block, thread] ←
      value.fields ["kernel_id", "grid_id", "cluster_idx", "block_idx", "thread_idx"] | none
    return ⟨← Value.required kernel, ← Value.required grid, ← Value.required cluster,
      ← Value.required block, ← Value.required thread⟩

instance : Interchange Coords where
  encode coords :=
    .record [("physical", Interchange.encode coords.physical), ("logical", Interchange.encode coords.logical)]
  decode value := do
    let [physical, logical] ← value.fields ["physical", "logical"] | none
    return ⟨← Value.required physical, ← Value.required logical⟩

def Granularity.interchangeName : Granularity → String
  | devices => "Devices"
  | sms => "Sms"
  | warps => "Warps"
  | lanes => "Lanes"
  | kernels => "Kernels"
  | blocks => "Blocks"
  | threads => "Threads"

instance : Interchange Granularity where
  encode granularity := .text granularity.interchangeName
  decode := Value.oneOf Granularity.all Granularity.interchangeName

instance : Interchange Addressing where
  encode addressing := .text addressing.name
  decode := Value.oneOf [.logical, .physical] Addressing.name

end LaneScope
