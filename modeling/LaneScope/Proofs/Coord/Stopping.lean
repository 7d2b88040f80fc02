import Mathlib
import LaneScope.Proofs.Coord.Parsing

/-!
Where the parser stops.  A text that is refused is cut in two at the offset of the fault.  Main statement: what comes before
the offset is a list of items in its own right, and what comes after could not have continued it.
-/

namespace LaneScope

/-- Whether the text starts with a complete item.  Its number takes all the digits there are, and fits the axis. -/
def StartsItem (text : List Char) : Prop :=
  ∃ front rest item, text = front ++ rest ∧ SpellsItem front item ∧ Parted front rest

def EndsBlank (text : List Char) : Prop :=
  ∃ last ∈ text.getLast?, last = ' ' ∨ last = '\t'

structure StopsBetween (before after : List Char) (items : List Item) : Prop where
  listing : SpellsListing before items
  solid : ∀ first ∈ after.head?, first ≠ ' ' ∧ first ≠ '\t'
  noItem : items = [] ∨ EndsBlank before → ¬ StartsItem after
  noDot : items ≠ [] → ∀ blanks rest, AllBlank blanks → after = '.' :: (blanks ++ rest) → ¬ StartsItem rest

section Ends

variable {front back : List Char}

theorem EndsBlank.of_append (ends : EndsBlank (front ++ back)) : EndsBlank back ∨ (back = [] ∧ EndsBlank front) := by
  obtain ⟨last, isLast, blank⟩ := ends
  rw [List.getLast?_append] at isLast
  cases backLast : back.getLast? with
  | none =>
      rw [backLast] at isLast
      exact .inr ⟨List.getLast?_eq_none_iff.mp backLast, last, isLast, blank⟩
  | some other =>
      rw [backLast] at isLast
      exact .inl ⟨last, backLast.trans isLast, blank⟩

theorem not_endsBlank_of_mark {mark : Char} (solid : isBlank mark = false) (front : List Char) :
    ¬ EndsBlank (front ++ [mark]) := by
  rintro ⟨last, isLast, blank⟩
  obtain rfl : mark = last := by simpa using isLast
  rcases blank with rfl | rfl <;> simp [isBlank] at solid

end Ends

section Spelling

variable {text : List Char} {item : Item} {items : List Item}

theorem SpellsField.not_endsBlank {width : Nat} {field : Field width} (spelled : SpellsField text field) :
    ¬ EndsBlank text := by
  cases spelled with
  | value spelled =>
      have split := List.dropLast_append_getLast spelled.nonempty
      rw [← split]
      exact not_endsBlank_of_mark (isBlank_of_isDigit (spelled.digits _ (List.getLast_mem spelled.nonempty))) _
  | wildcard | invalid => exact not_endsBlank_of_mark rfl []

theorem SpellsIndex.not_endsBlank {index : Index3} (spelled : SpellsIndex text index) : ¬ EndsBlank text := by
  cases spelled with
  | @axes x y z =>
      have closed : ¬ EndsBlank ('(' :: (x ++ ',' :: (y ++ ',' :: z)) ++ [')']) := not_endsBlank_of_mark rfl _
      simpa using closed
  | wildcard | invalid | inapplicable => exact not_endsBlank_of_mark rfl []

theorem Axis.not_endsBlank_of_spells {axis : Axis} {content : axis.Content} (spelled : axis.Spells text content) :
    ¬ EndsBlank text := by
  cases axis with
  | dev | sm | wp | ln | kernel | grid => exact SpellsField.not_endsBlank spelled
  | cluster | block | thread => exact SpellsIndex.not_endsBlank spelled

theorem SpellsItem.not_endsBlank (spelled : SpellsItem text item) : ¬ EndsBlank text := by
  cases spelled with
  | @named axis blanks body content blank spelled =>
      have nonempty := (Axis.stopsAt_of_spells spelled []).1
      intro ends
      rcases ends.of_append with ends | ⟨none, -⟩
      · rcases ends.of_append with ends | ⟨none, -⟩
        · exact Axis.not_endsBlank_of_spells spelled ends
        · exact nonempty none
      · exact nonempty (List.append_eq_nil_iff.mp none).2

theorem SpellsMoreItems.not_endsBlank (spelled : SpellsMoreItems text items) : ¬ EndsBlank text := by
  induction spelled with
  | nil => simp [EndsBlank]
  | @cons separator text rest item items separates spelled more ih =>
      obtain ⟨first, tail, rfl, -⟩ := spelled.exists_cons
      intro ends
      rcases ends.of_append with ends | ⟨none, -⟩
      · rcases ends.of_append with ends | ⟨-, ends⟩
        · exact ih ends
        · exact spelled.not_endsBlank ends
      · contradiction

theorem SpellsItems.not_endsBlank (spelled : SpellsItems text items) : ¬ EndsBlank text := by
  cases spelled with
  | nil => simp [EndsBlank]
  | cons spelled more =>
      intro ends
      rcases ends.of_append with ends | ⟨-, ends⟩
      · exact more.not_endsBlank ends
      · exact spelled.not_endsBlank ends

theorem SpellsItems.ne_nil_of_endsBlank (spelled : SpellsItems text items) (found : items ≠ []) {before after : List Char}
    (ends : EndsBlank (before ++ (text ++ after))) : after ≠ [] := by
  rintro rfl
  rw [List.append_nil] at ends
  rcases ends.of_append with ends | ⟨empty, -⟩
  · exact spelled.not_endsBlank ends
  · cases spelled with
    | nil => exact found rfl
    | cons spelledFirst more =>
        obtain ⟨first, tail, rfl, -⟩ := spelledFirst.exists_cons
        contradiction

end Spelling

section Reading

variable {text separator rest : List Char}

theorem startsItem_iff : StartsItem text ↔ ∃ item rest, Item.read text = some (item, rest) := by
  simp only [StartsItem, Item.read_eq_some]
  constructor
  · rintro ⟨front, rest, item, spelled⟩
    exact ⟨item, rest, front, spelled⟩
  · rintro ⟨item, rest, front, spelled⟩
    exact ⟨front, rest, item, spelled⟩

theorem not_startsItem_of_read (unread : Item.read text = none) : ¬ StartsItem text := by
  intro starts
  obtain ⟨item, rest, found⟩ := startsItem_iff.mp starts
  rw [unread] at found
  contradiction

theorem StartsItem.exists_cons (starts : StartsItem text) :
    ∃ first tail, text = first :: tail ∧ isBlank first = false ∧ first ≠ '.' := by
  obtain ⟨front, rest, item, rfl, spelled, -⟩ := starts
  obtain ⟨first, tail, rfl, solid, noDot⟩ := spelled.exists_cons
  exact ⟨first, tail ++ rest, rfl, solid, noDot⟩

theorem Separates.readSeparator_of_startsItem (separates : Separates separator) (starts : StartsItem rest) :
    readSeparator (separator ++ rest) = some rest := by
  obtain ⟨first, tail, rfl, solid, noDot⟩ := starts.exists_cons
  exact separates.readSeparator_append solid noDot tail

/-- Reading stops only where no separator comes with an item behind it. -/
theorem not_startsItem_of_readMoreItems (left : (readMoreItems text).2 = separator ++ rest)
    (separates : Separates separator) : ¬ StartsItem rest := by
  intro starts
  fun_induction readMoreItems text with
  | case1 text unseparated =>
      subst left
      rw [separates.readSeparator_of_startsItem starts] at unseparated
      contradiction
  | case2 text afterSeparator separated unread =>
      subst left
      rw [separates.readSeparator_of_startsItem starts] at separated
      obtain rfl := Option.some.inj separated
      exact not_startsItem_of_read unread starts
  | case3 text afterSeparator separated item rest found items behind read ih =>
      rw [read] at ih
      exact ih left

theorem not_startsItem_of_readItems (found : (readItems text).1 ≠ []) (left : (readItems text).2 = separator ++ rest)
    (separates : Separates separator) : ¬ StartsItem rest := by
  rw [readItems] at found left
  split at left
  · rename_i unread
    simp [unread] at found
  · exact not_startsItem_of_readMoreItems left separates

theorem readItems_of_nothing (nothing : (readItems text).1 = []) : (readItems text).2 = text ∧ ¬ StartsItem text := by
  rw [readItems] at nothing ⊢
  split at nothing
  · rename_i unread
    exact ⟨rfl, not_startsItem_of_read unread⟩
  · contradiction

/-- What reading leaves behind its blanks is where the text is cut. -/
theorem exists_stopsBetween (text : List Char) : ∃ before items,
    text = before ++ skipBlanks (readItems (skipBlanks text)).2 ∧
      StopsBetween before (skipBlanks (readItems (skipBlanks text)).2) items := by
  obtain ⟨lead, blankLead, split⟩ := exists_blanks text
  obtain ⟨front, frontSplit, spelled⟩ := spells_readItems (skipBlanks text)
  obtain ⟨blanks, blank, behindSplit⟩ := exists_blanks (readItems (skipBlanks text)).2
  have solid : StopsAt isBlank (skipBlanks (readItems (skipBlanks text)).2) := stopsAt_dropWhile _ _
  refine ⟨lead ++ (front ++ blanks), (readItems (skipBlanks text)).1, ?_, .padded blankLead spelled blank, ?_, ?_, ?_⟩
  · rw [List.append_assoc, List.append_assoc, ← behindSplit, ← frontSplit, ← split]
  · intro first head
    simpa [isBlank] using solid first head
  · intro bare
    by_cases nothing : (readItems (skipBlanks text)).1 = []
    · obtain ⟨unread, unstarted⟩ := readItems_of_nothing nothing
      have skipped : skipBlanks (skipBlanks text) = skipBlanks text := List.dropWhile_idempotent _ _
      rwa [unread, skipped]
    · have someBlanks := spelled.ne_nil_of_endsBlank nothing (bare.resolve_left nothing)
      exact not_startsItem_of_readItems nothing behindSplit (.blanks blank someBlanks)
  · intro found inner rest blankInner dotted
    rw [dotted] at behindSplit
    refine not_startsItem_of_readItems found ?_ (.dot blank blankInner)
    rw [behindSplit, List.append_assoc, List.cons_append]

end Reading

theorem utf8Length_eq (text : List Char) : utf8Length text = (String.ofList text).utf8ByteSize := by
  rw [String.utf8ByteSize_ofList]
  induction text with
  | nil => rfl
  | cons first text ih =>
      rw [String.utf8Len_cons, ← ih, Nat.add_comm]
      rfl

namespace Coords

/-- Whether the text is cut in two at the offset, counted in bytes: the first part parses by itself, unless an axis is
repeated in it, and the second one is what it could not have gone on with. -/
def StopsAtByte (text : String) (offset : Nat) : Prop :=
  ∃ (before after : String) (items : List Item), text = before ++ after ∧ before.utf8ByteSize = offset ∧
    offset < text.utf8ByteSize ∧ StopsBetween before.toList after.toList items ∧
    ((∃ coords, parse before = .ok coords) ∨ ∃ axis, parse before = .error (.repeated axis))

theorem parse_eq_unexpected {text input : String} {offset : Nat} :
    parse text = .error (.unexpected input offset) ↔
      skipBlanks (readItems (skipBlanks text.toList)).2 ≠ [] ∧ text = input ∧
        utf8Length text.toList - utf8Length (skipBlanks (readItems (skipBlanks text.toList)).2) = offset := by
  simp only [parse]
  split
  · rename_i emptied
    rw [List.isEmpty_iff] at emptied
    simp only [emptied, ne_eq, not_true_eq_false, false_and, iff_false]
    split <;> simp
  · rename_i left
    rw [List.isEmpty_iff] at left
    simp [left]

theorem parse_of_spells_cases {text : String} {items : List Item} (spelled : SpellsListing text.toList items) :
    (∃ coords, parse text = .ok coords) ∨ ∃ axis, parse text = .error (.repeated axis) := by
  rw [parse_of_spells spelled]
  cases firstRepeated [] items with
  | none => exact .inl ⟨_, rfl⟩
  | some axis => exact .inr ⟨axis, rfl⟩

/-- The fault names the text and the place where reading it stopped. -/
theorem parse_stops {text input : String} {offset : Nat} (refused : parse text = .error (.unexpected input offset)) :
    input = text ∧ StopsAtByte text offset := by
  obtain ⟨left, rfl, offsetEq⟩ := parse_eq_unexpected.mp refused
  obtain ⟨before, items, split, stops⟩ := exists_stopsBetween text.toList
  generalize skipBlanks (readItems (skipBlanks text.toList)).2 = after at left offsetEq split stops
  have parts : text = String.ofList before ++ String.ofList after := by
    rw [← String.ofList_append, ← split, String.ofList_toList]
  have sizes : text.utf8ByteSize = (String.ofList before).utf8ByteSize + (String.ofList after).utf8ByteSize := by
    rw [parts, String.utf8ByteSize_append]
  have size : (String.ofList before).utf8ByteSize = offset := by
    rw [← offsetEq, utf8Length_eq, utf8Length_eq, String.ofList_toList, sizes, Nat.add_sub_cancel]
  have someAfter : (String.ofList after).utf8ByteSize ≠ 0 := by
    rw [ne_eq, String.utf8ByteSize_eq_zero_iff]
    intro empty
    have nothing := congrArg String.toList empty
    rw [String.toList_ofList] at nothing
    exact left nothing
  refine ⟨rfl, String.ofList before, String.ofList after, items, parts, size, by omega, ?_, ?_⟩
  · rw [String.toList_ofList, String.toList_ofList]
    exact stops
  · apply parse_of_spells_cases
    rw [String.toList_ofList]
    exact stops.listing

/-- The dot is not taken, because no item is complete behind it. -/
theorem parse_stops_before_dot : ∃ input, parse "sm1 \t.wpé" = .error (.unexpected input 5) ∧
    input = "sm1 \t.wpé" ∧ StopsAtByte "sm1 \t.wpé" 5 := by
  have stuck : readMoreItems [' ', '\t', '.', 'w', 'p', 'é'] = ([], [' ', '\t', '.', 'w', 'p', 'é']) := by
    apply readMoreItems_of_not_read
    intro afterSeparator separated
    obtain rfl : ['w', 'p', 'é'] = afterSeparator := Option.some.inj separated
    rfl
  have found : Item.read (skipBlanks "sm1 \t.wpé".toList) = some (⟨.sm, .value 1⟩, [' ', '\t', '.', 'w', 'p', 'é']) := rfl
  have refused : parse "sm1 \t.wpé" = .error (.unexpected "sm1 \t.wpé" 5) := by
    rw [parse_eq_unexpected, readItems, found]
    simp only [stuck]
    exact ⟨by decide, trivial, rfl⟩
  exact ⟨_, refused, parse_stops refused⟩

end Coords

end LaneScope
