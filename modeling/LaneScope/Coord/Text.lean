import LaneScope.Coord.Basic

/-!
The written form of coordinates.  An item is the name of an axis followed by its content; the items of an address
are joined by dots, and the two addresses of a coordinate stand side by side, as in
`dev0.sm1.wp*.ln5 kernel3.grid*.cluster-.block(1,*,0).thread?`.
-/

namespace LaneScope

structure Item where
  axis : Axis
  content : axis.Content

def Axis.contentChars : (axis : Axis) → axis.Content → List Char
  | .dev | .sm | .wp | .ln => Field.chars
  | .kernel | .grid => Field.chars
  | .cluster | .block | .thread => Index3.chars

def Item.chars (item : Item) : List Char :=
  item.axis.name.toList ++ item.axis.contentChars item.content

def dotted : List Item → List Char
  | [] => []
  | [item] => item.chars
  | item :: next :: rest => item.chars ++ '.' :: dotted (next :: rest)

def Physical.items (address : Physical) : List Item :=
  [⟨.dev, address.dev⟩, ⟨.sm, address.sm⟩, ⟨.wp, address.wp⟩, ⟨.ln, address.ln⟩]

def Logical.items (address : Logical) : List Item :=
  [⟨.kernel, address.kernel⟩, ⟨.grid, address.grid⟩, ⟨.cluster, address.cluster⟩, ⟨.block, address.block⟩,
    ⟨.thread, address.thread⟩]

def Physical.chars (address : Physical) : List Char :=
  dotted address.items

def Logical.chars (address : Logical) : List Char :=
  dotted address.items

def Coords.chars (coords : Coords) : List Char :=
  coords.physical.chars ++ ' ' :: coords.logical.chars

def Physical.text (address : Physical) : String :=
  String.ofList address.chars

def Logical.text (address : Logical) : String :=
  String.ofList address.chars

def Coords.text (coords : Coords) : String :=
  String.ofList coords.chars

end LaneScope
