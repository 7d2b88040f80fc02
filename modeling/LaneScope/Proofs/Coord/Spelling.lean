import LaneScope.Coord.Grammar

/-!
The written language of coordinates: which texts spell a number, the content of an axis, an item, and a list of
items.  Every reader of a single token takes off a text exactly what spells the token, provided that no number
would go on behind it.
-/

namespace LaneScope

def AllBlank (text : List Char) : Prop :=
  ∀ char ∈ text, char = ' ' ∨ char = '\t'

/-- A number is spelt by decimal digits, with any number of leading zeros. -/
structure SpellsWord {width : Nat} (text : List Char) (word : BitVec width) : Prop where
  nonempty : text ≠ []
  digits : ∀ char ∈ text, char.isDigit = true
  value : ofDecimal text = word.toNat

inductive SpellsField {width : Nat} : List Char → Field width → Prop
  | value {text word} : SpellsWord text word → SpellsField text (.value word)
  | wildcard : SpellsField ['*'] .wildcard
  | invalid : SpellsField ['?'] .invalid

inductive SpellsIndex : List Char → Index3 → Prop
  | axes {x y z : List Char} {fieldX fieldY fieldZ : Field 32} :
      SpellsField x fieldX → SpellsField y fieldY → SpellsField z fieldZ →
      SpellsIndex ('(' :: (x ++ ',' :: (y ++ ',' :: (z ++ [')'])))) (.axes fieldX fieldY fieldZ)
  | wildcard : SpellsIndex ['*'] .wildcard
  | invalid : SpellsIndex ['?'] .invalid
  | inapplicable : SpellsIndex ['-'] .inapplicable

def Axis.Spells : (axis : Axis) → List Char → axis.Content → Prop
  | .dev | .sm | .wp | .ln => SpellsField
  | .kernel | .grid => SpellsField
  | .cluster | .block | .thread => SpellsIndex

inductive SpellsItem : List Char → Item → Prop
  | named {axis : Axis} {blanks text : List Char} {content : axis.Content} : AllBlank blanks →
      axis.Spells text content → SpellsItem (axis.name.toList ++ (blanks ++ text)) ⟨axis, content⟩

inductive Separates : List Char → Prop
  | dot {before after : List Char} : AllBlank before → AllBlank after → Separates (before ++ '.' :: after)
  | blanks {text : List Char} : AllBlank text → text ≠ [] → Separates text

inductive SpellsMoreItems : List Char → List Item → Prop
  | nil : SpellsMoreItems [] []
  | cons {separator text rest : List Char} {item : Item} {items : List Item} : Separates separator →
      SpellsItem text item → SpellsMoreItems rest items →
      SpellsMoreItems (separator ++ (text ++ rest)) (item :: items)

inductive SpellsItems : List Char → List Item → Prop
  | nil : SpellsItems [] []
  | cons {text rest : List Char} {item : Item} {items : List Item} : SpellsItem text item →
      SpellsMoreItems rest items → SpellsItems (text ++ rest) (item :: items)

inductive SpellsListing : List Char → List Item → Prop
  | padded {before text after : List Char} {items : List Item} : AllBlank before → SpellsItems text items →
      AllBlank after → SpellsListing (before ++ (text ++ after)) items

def StopsAt (test : Char → Bool) (text : List Char) : Prop :=
  ∀ first ∈ text.head?, test first = false

/-- Whether no number runs on from one text into the other. -/
def Parted (front rest : List Char) : Prop :=
  ∀ last ∈ front.getLast?, last.isDigit = true → StopsAt Char.isDigit rest

section Scanning

variable {test : Char → Bool} {front rest : List Char}

theorem StopsAt.takeWhile_append (stops : StopsAt test rest) (passes : ∀ char ∈ front, test char = true) :
    (front ++ rest).takeWhile test = front := by
  rw [List.takeWhile_append_of_pos passes]
  cases rest with
  | nil => simp
  | cons first tail => simp [stops first rfl]

theorem StopsAt.dropWhile_append (stops : StopsAt test rest) (passes : ∀ char ∈ front, test char = true) :
    (front ++ rest).dropWhile test = rest := by
  rw [List.dropWhile_append_of_pos passes]
  cases rest with
  | nil => simp
  | cons first tail => simp [stops first rfl]

theorem stopsAt_cons {first : Char} (fails : test first = false) (rest : List Char) : StopsAt test (first :: rest) := by
  intro other head
  obtain rfl : first = other := by simpa using head
  exact fails

theorem stopsAt_dropWhile (test : Char → Bool) (text : List Char) : StopsAt test (text.dropWhile test) := by
  intro first head
  have := List.head?_dropWhile_not test text
  rw [head] at this
  simpa using this

end Scanning

section Words

variable {width : Nat} {text rest front : List Char} {word : BitVec width} {field : Field width}

theorem toWord?_eq_some {number : Nat} : toWord? width number = some word ↔ number = word.toNat := by
  simp only [toWord?, Option.ite_none_right_eq_some, Option.some.injEq]
  constructor
  · rintro ⟨fits, rfl⟩
    exact fits.symm
  · rintro rfl
    simp

theorem SpellsWord.parted_iff (spelled : SpellsWord front word) :
    Parted front rest ↔ StopsAt Char.isDigit rest := by
  constructor
  · intro parted
    have last := List.getLast?_eq_some_getLast spelled.nonempty
    exact parted _ last (spelled.digits _ (List.getLast_mem spelled.nonempty))
  · intro stops last _ _
    exact stops

theorem readWord_eq_some : readWord width text = some (word, rest) ↔
    ∃ front, text = front ++ rest ∧ SpellsWord front word ∧ Parted front rest := by
  constructor
  · intro found
    simp only [readWord, Option.ite_none_left_eq_some, Option.map_eq_some_iff, Prod.mk.injEq,
      List.isEmpty_iff] at found
    obtain ⟨nonempty, found, number, rfl, rfl⟩ := found
    have digits : ∀ char ∈ text.takeWhile Char.isDigit, char.isDigit = true :=
      List.all_eq_true.mp (List.all_takeWhile)
    have spelled : SpellsWord (text.takeWhile Char.isDigit) found :=
      ⟨nonempty, digits, toWord?_eq_some.mp number⟩
    refine ⟨_, List.takeWhile_append_dropWhile.symm, spelled, spelled.parted_iff.mpr ?_⟩
    exact stopsAt_dropWhile Char.isDigit text
  · rintro ⟨front, rfl, spelled, parted⟩
    have stops := spelled.parted_iff.mp parted
    have nonempty : front.isEmpty = false := by simpa using spelled.nonempty
    simp only [readWord, stops.takeWhile_append spelled.digits, stops.dropWhile_append spelled.digits, nonempty,
      toWord?_eq_some.mpr spelled.value]
    rfl

theorem readWord_cons_of_not_isDigit {first : Char} (mark : first.isDigit = false) (rest : List Char) :
    readWord width (first :: rest) = none := by
  simp [readWord, mark]

theorem parted_of_mark {mark : Char} (notDigit : mark.isDigit = false) (front rest : List Char) :
    Parted (front ++ [mark]) rest := by
  intro last isLast digit
  simp at isLast
  simp [← isLast, notDigit] at digit

theorem Field.read_eq_some : Field.read width text = some (field, rest) ↔
    ∃ front, text = front ++ rest ∧ SpellsField front field ∧ Parted front rest := by
  constructor
  · intro found
    simp only [Field.read] at found
    split at found
    · rename_i word tail number
      obtain ⟨rfl, rfl⟩ := Prod.mk.inj (Option.some.inj found)
      obtain ⟨front, rfl, spelled, parted⟩ := readWord_eq_some.mp number
      exact ⟨front, rfl, .value spelled, parted⟩
    · split at found
      · obtain ⟨rfl, rfl⟩ := Prod.mk.inj (Option.some.inj found)
        exact ⟨['*'], rfl, .wildcard, parted_of_mark rfl [] _⟩
      · obtain ⟨rfl, rfl⟩ := Prod.mk.inj (Option.some.inj found)
        exact ⟨['?'], rfl, .invalid, parted_of_mark rfl [] _⟩
      · simp at found
  · rintro ⟨front, rfl, spelled, parted⟩
    cases spelled with
    | value spelled =>
        have number := readWord_eq_some.mpr ⟨front, rfl, spelled, parted⟩
        simp only [Field.read, number]
    | wildcard => simp [Field.read, readWord_cons_of_not_isDigit]
    | invalid => simp [Field.read, readWord_cons_of_not_isDigit]

end Words

theorem parted_of_stops {front rest : List Char} (stops : StopsAt Char.isDigit rest) : Parted front rest :=
  fun _ _ _ => stops

theorem parted_cons {first : Char} (notDigit : first.isDigit = false) (front rest : List Char) :
    Parted front (first :: rest) :=
  parted_of_stops (stopsAt_cons notDigit rest)

theorem parted_append {front : List Char} (nonempty : front ≠ []) (before rest : List Char) :
    Parted (before ++ front) rest ↔ Parted front rest := by
  rw [Parted, Parted, List.getLast?_append, List.getLast?_eq_some_getLast nonempty, Option.some_or]

namespace Index3

variable {text rest : List Char} {index : Index3}

theorem readMark_eq_some {mark : Char} : readMark mark text = some rest ↔ text = mark :: rest := by
  cases text with
  | nil => simp [readMark]
  | cons first tail =>
      by_cases same : first = mark
      · simp [readMark, same]
      · simp [readMark, same]

theorem readAxes_eq_some : readAxes text = some (index, rest) ↔
    ∃ (x y z : List Char) (fieldX fieldY fieldZ : Field 32),
      SpellsField x fieldX ∧ SpellsField y fieldY ∧ SpellsField z fieldZ ∧
        text = '(' :: (x ++ ',' :: (y ++ ',' :: (z ++ ')' :: rest))) ∧ index = .axes fieldX fieldY fieldZ := by
  simp only [readAxes, Option.bind_eq_bind, Option.bind_eq_some_iff, Option.pure_def, Option.some.injEq,
    Prod.exists, Prod.mk.injEq, readMark_eq_some, Field.read_eq_some]
  constructor
  · rintro ⟨_, rfl, fieldX, _, ⟨x, rfl, spelledX, -⟩, _, rfl, fieldY, _, ⟨y, rfl, spelledY, -⟩, _, rfl, fieldZ, _,
      ⟨z, rfl, spelledZ, -⟩, _, rfl, rfl, rfl⟩
    exact ⟨x, y, z, fieldX, fieldY, fieldZ, spelledX, spelledY, spelledZ, rfl, rfl⟩
  · rintro ⟨x, y, z, fieldX, fieldY, fieldZ, spelledX, spelledY, spelledZ, rfl, rfl⟩
    exact ⟨_, rfl, fieldX, _, ⟨x, rfl, spelledX, parted_cons rfl _ _⟩, _, rfl, fieldY, _,
      ⟨y, rfl, spelledY, parted_cons rfl _ _⟩, _, rfl, fieldZ, _, ⟨z, rfl, spelledZ, parted_cons rfl _ _⟩, _, rfl,
      rfl, rfl⟩

/-- What spells an index never ends in a digit. -/
theorem parted_of_spells (spelled : SpellsIndex text index) (rest : List Char) : Parted text rest := by
  cases spelled with
  | @axes x y z =>
      have closed : Parted ('(' :: (x ++ ',' :: (y ++ ',' :: z)) ++ [')']) rest := parted_of_mark rfl _ rest
      simpa using closed
  | wildcard | invalid | inapplicable => exact parted_of_mark rfl [] rest

theorem read_eq_some : Index3.read text = some (index, rest) ↔
    ∃ front, text = front ++ rest ∧ SpellsIndex front index ∧ Parted front rest := by
  constructor
  · intro found
    have spelled : ∃ front, text = front ++ rest ∧ SpellsIndex front index := by
      simp only [Index3.read] at found
      split at found
      · obtain ⟨rfl, rfl⟩ := Prod.mk.inj (Option.some.inj found)
        exact ⟨['*'], rfl, .wildcard⟩
      · obtain ⟨rfl, rfl⟩ := Prod.mk.inj (Option.some.inj found)
        exact ⟨['?'], rfl, .invalid⟩
      · obtain ⟨rfl, rfl⟩ := Prod.mk.inj (Option.some.inj found)
        exact ⟨['-'], rfl, .inapplicable⟩
      · obtain ⟨x, y, z, fieldX, fieldY, fieldZ, spelledX, spelledY, spelledZ, rfl, rfl⟩ := readAxes_eq_some.mp found
        exact ⟨_, by simp, .axes spelledX spelledY spelledZ⟩
    obtain ⟨front, split, spelled⟩ := spelled
    exact ⟨front, split, spelled, parted_of_spells spelled rest⟩
  · rintro ⟨front, rfl, spelled, -⟩
    cases spelled with
    | axes spelledX spelledY spelledZ =>
        simp only [List.cons_append, Index3.read]
        exact readAxes_eq_some.mpr ⟨_, _, _, _, _, _, spelledX, spelledY, spelledZ, by simp, rfl⟩
    | wildcard | invalid | inapplicable => rfl

end Index3

section Items

variable {text rest : List Char} {item : Item}

theorem readName_eq_some {name : List Char} : readName name text = some rest ↔ text = name ++ rest := by
  induction name generalizing text with
  | nil => simp [readName]
  | cons expected name ih =>
      cases text with
      | nil => simp [readName]
      | cons first tail =>
          by_cases same : expected = first
          · simp [readName, same, ih]
          · simp [readName, same, Ne.symm same]

theorem skipBlanks_append {blanks : List Char} (blank : AllBlank blanks) (stops : StopsAt isBlank rest) :
    skipBlanks (blanks ++ rest) = rest := by
  apply stops.dropWhile_append
  intro char member
  simpa [isBlank] using blank char member

theorem exists_blanks (text : List Char) : ∃ blanks, AllBlank blanks ∧ text = blanks ++ skipBlanks text := by
  refine ⟨text.takeWhile isBlank, ?_, List.takeWhile_append_dropWhile.symm⟩
  intro char member
  simpa [isBlank] using List.all_eq_true.mp List.all_takeWhile char member

theorem isBlank_of_isDigit {char : Char} (digit : char.isDigit = true) : isBlank char = false := by
  rw [isBlank, Bool.or_eq_false_iff, beq_eq_false_iff_ne, beq_eq_false_iff_ne]
  constructor
  · rintro rfl
    simp at digit
  · rintro rfl
    simp at digit

namespace Axis

variable {axis : Axis} {content : axis.Content}

theorem readContent_eq_some : axis.readContent text = some (content, rest) ↔
    ∃ front, text = front ++ rest ∧ axis.Spells front content ∧ Parted front rest := by
  cases axis with
  | dev | sm | wp | ln | kernel | grid => exact Field.read_eq_some
  | cluster | block | thread => exact Index3.read_eq_some

theorem stopsAt_of_spellsField {width : Nat} {front : List Char} {field : Field width}
    (spelled : SpellsField front field) (rest : List Char) : front ≠ [] ∧ StopsAt isBlank (front ++ rest) := by
  cases spelled with
  | value spelled =>
      cases front with
      | nil => exact (spelled.nonempty rfl).elim
      | cons first tail =>
          exact ⟨by simp, stopsAt_cons (isBlank_of_isDigit (spelled.digits first List.mem_cons_self)) _⟩
  | wildcard | invalid => exact ⟨by simp, stopsAt_cons rfl _⟩

theorem stopsAt_of_spells {front : List Char} (spelled : axis.Spells front content) (rest : List Char) :
    front ≠ [] ∧ StopsAt isBlank (front ++ rest) := by
  cases axis with
  | dev | sm | wp | ln | kernel | grid => exact stopsAt_of_spellsField spelled rest
  | cluster | block | thread => cases spelled <;> exact ⟨by simp, stopsAt_cons rfl _⟩

theorem readItem_eq_some : axis.readItem text = some (item, rest) ↔
    item.axis = axis ∧ ∃ front, text = front ++ rest ∧ SpellsItem front item ∧ Parted front rest := by
  simp only [readItem, Option.bind_eq_bind, Option.bind_eq_some_iff, Option.pure_def, Option.some.injEq, Prod.exists,
    Prod.mk.injEq, readName_eq_some, readContent_eq_some]
  constructor
  · rintro ⟨afterName, rfl, content, _, ⟨body, split, spelled, parted⟩, rfl, rfl⟩
    obtain ⟨blanks, blank, padded⟩ := exists_blanks afterName
    have nonempty := (stopsAt_of_spells spelled []).1
    refine ⟨rfl, axis.name.toList ++ (blanks ++ body), ?_, .named blank spelled, ?_⟩
    · rw [padded, split]
      simp
    · rwa [parted_append (by simp [nonempty]), parted_append nonempty]
  · rintro ⟨rfl, front, rfl, spelled, parted⟩
    cases spelled with
    | @named axis blanks body content blank spelled =>
        obtain ⟨nonempty, stops⟩ := stopsAt_of_spells spelled rest
        rw [parted_append (by simp [nonempty]), parted_append nonempty] at parted
        refine ⟨blanks ++ (body ++ rest), by simp, content, rest, ⟨body, ?_, spelled, parted⟩, rfl, rfl⟩
        exact skipBlanks_append blank stops

theorem eq_of_name_append {axis other : Axis} {tail otherTail : List Char}
    (same : axis.name.toList ++ tail = other.name.toList ++ otherTail) : axis = other := by
  cases axis <;> cases other <;> simp [name] at same ⊢

end Axis

theorem SpellsItem.exists_name (spelled : SpellsItem text item) : ∃ tail, text = item.axis.name.toList ++ tail := by
  cases spelled with
  | named => exact ⟨_, rfl⟩

/-- No name of an axis begins another, so only the reader of one axis accepts a text. -/
theorem Item.read_eq_some_iff_readItem : Item.read text = some (item, rest) ↔
    item.axis.readItem text = some (item, rest) := by
  have axis_eq {axis other : Axis} {found : Item × List Char} (onAxis : axis.readItem text = some found)
      (onOther : other.readItem text = some (item, rest)) : axis = other := by
    obtain ⟨rfl, front, split, spelled, -⟩ := Axis.readItem_eq_some.mp onAxis
    obtain ⟨rfl, otherFront, otherSplit, otherSpelled, -⟩ := Axis.readItem_eq_some.mp onOther
    obtain ⟨tail, rfl⟩ := spelled.exists_name
    obtain ⟨otherTail, rfl⟩ := otherSpelled.exists_name
    rw [split, List.append_assoc, List.append_assoc] at otherSplit
    exact Axis.eq_of_name_append otherSplit
  constructor
  · intro found
    obtain ⟨axis, -, onAxis⟩ := List.exists_of_findSome?_eq_some found
    rwa [(Axis.readItem_eq_some.mp onAxis).1]
  · intro onItem
    cases found : Item.read text with
    | none =>
        have nowhere := List.findSome?_eq_none_iff.mp found item.axis (by cases item.axis <;> decide)
        simp [onItem] at nowhere
    | some other =>
        obtain ⟨axis, -, onAxis⟩ := List.exists_of_findSome?_eq_some found
        rwa [axis_eq onAxis onItem, onItem, eq_comm] at onAxis

theorem Item.read_eq_some : Item.read text = some (item, rest) ↔
    ∃ front, text = front ++ rest ∧ SpellsItem front item ∧ Parted front rest := by
  rw [read_eq_some_iff_readItem, Axis.readItem_eq_some]
  exact and_iff_right rfl

end Items

end LaneScope
