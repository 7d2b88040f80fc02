import LaneScope.Proofs.Coord.Parsing

/-!
Writing and reading back.  What is written for a coordinate spells its nine items, so the parser gives the coordinate
back, and no two coordinates are written alike.
-/

namespace LaneScope

theorem spellsWord_decimal {width : Nat} (word : BitVec width) : SpellsWord (decimal word.toNat) word where
  nonempty := Nat.toDigits_ne_nil
  digits := fun _ member => Nat.isDigit_of_mem_toDigits (by decide) (by decide) member
  value := Nat.ofDigitChars_toDigits (by decide) (by decide)

theorem spellsField_chars {width : Nat} (field : Field width) : SpellsField field.chars field := by
  cases field with
  | value word => exact .value (spellsWord_decimal word)
  | wildcard => exact .wildcard
  | invalid => exact .invalid

theorem spellsIndex_chars (index : Index3) : SpellsIndex index.chars index := by
  unfold Index3.chars
  split
  · exact .inapplicable
  · exact .wildcard
  · exact .invalid
  · rename_i x y z _ _
    simpa using SpellsIndex.axes (spellsField_chars x) (spellsField_chars y) (spellsField_chars z)

theorem Axis.spells_contentChars (axis : Axis) (content : axis.Content) :
    axis.Spells (axis.contentChars content) content := by
  cases axis with
  | dev | sm | wp | ln | kernel | grid => exact spellsField_chars content
  | cluster | block | thread => exact spellsIndex_chars content

theorem allBlank_nil : AllBlank [] := by
  simp [AllBlank]

theorem spellsItem_chars (item : Item) : SpellsItem item.chars item :=
  .named allBlank_nil (item.axis.spells_contentChars item.content)

section Joining

variable {front separator rest : List Char} {item next : Item} {items others : List Item}

theorem SpellsMoreItems.append (spelled : SpellsMoreItems front items) (more : SpellsMoreItems rest others) :
    SpellsMoreItems (front ++ rest) (items ++ others) := by
  induction spelled with
  | nil => exact more
  | cons separates spelled _ ih =>
      rw [List.append_assoc, List.append_assoc]
      exact .cons separates spelled ih

theorem SpellsItems.join (spelled : SpellsItems front (item :: items)) (separates : Separates separator)
    (more : SpellsItems rest (next :: others)) :
    SpellsItems (front ++ (separator ++ rest)) (item :: items ++ next :: others) := by
  cases spelled with
  | cons first following =>
      cases more with
      | cons second behind =>
          rw [List.append_assoc]
          exact .cons first (following.append (.cons separates second behind))

theorem spellsItems_dotted (item : Item) (items : List Item) : SpellsItems (dotted (item :: items)) (item :: items) := by
  have single (item : Item) : SpellsItems item.chars [item] := by
    have spelled := SpellsItems.cons (spellsItem_chars item) .nil
    rwa [List.append_nil] at spelled
  have dot : Separates ([] ++ '.' :: []) := .dot allBlank_nil allBlank_nil
  induction items generalizing item with
  | nil => exact single item
  | cons next rest ih => exact (single item).join dot (ih next)

end Joining

namespace Coords

variable (coords : Coords)

def items : List Item :=
  coords.physical.items ++ coords.logical.items

theorem axes_items : coords.items.map Item.axis = Axis.all := by
  rfl

theorem carries_items : coords.Carries coords.items := by
  refine ⟨?_, ?_⟩
  · simp [items, Physical.items, Logical.items, get]
  · intro axis unnamed
    rw [axes_items] at unnamed
    cases axis <;> simp [Axis.all] at unnamed

theorem spellsListing_text : SpellsListing coords.text.toList coords.items := by
  have blank : Separates [' '] := .blanks (by simp [AllBlank]) (by simp)
  have physical : SpellsItems coords.physical.chars coords.physical.items := spellsItems_dotted _ _
  have logical : SpellsItems coords.logical.chars coords.logical.items := spellsItems_dotted _ _
  have listing := SpellsListing.padded allBlank_nil (physical.join blank logical) allBlank_nil
  rw [List.nil_append, List.append_nil] at listing
  rwa [text, String.toList_ofList]

/-- A coordinate is read back from what is written for it, so no other coordinate is written in the same way. -/
theorem parse_text : parse coords.text = .ok coords ∧ ∀ other : Coords, other.text = coords.text → other = coords := by
  have parsed (coords : Coords) : parse coords.text = .ok coords := by
    rw [parse_eq_ok_of_spells coords.spellsListing_text]
    exact ⟨by rw [axes_items]; decide, coords.carries_items⟩
  refine ⟨parsed coords, ?_⟩
  intro other same
  have both := (parsed other).symm.trans (same ▸ parsed coords)
  exact Except.ok.inj both

end Coords

end LaneScope
