import LaneScope.Coord.Text

/-!
Reading coordinates.  A text is a list of items in any order, between optional blanks and separated by a dot or by
blanks; axes that are not named stay open.  Reading is greedy, and a separator without an item after it is given
back, so the text is refused exactly where the list of items cannot go on.
-/

namespace LaneScope

def isBlank (char : Char) : Bool :=
  char == ' ' || char == '\t'

def skipBlanks (text : List Char) : List Char :=
  text.dropWhile isBlank

def readName : List Char → List Char → Option (List Char)
  | [], text => some text
  | _ :: _, [] => none
  | expected :: name, first :: rest => if expected = first then readName name rest else none

def Axis.readContent : (axis : Axis) → List Char → Option (axis.Content × List Char)
  | .dev | .sm | .wp | .ln => Field.read 32
  | .kernel | .grid => Field.read 64
  | .cluster | .block | .thread => Index3.read

def Axis.readItem (axis : Axis) (text : List Char) : Option (Item × List Char) := do
  let rest ← readName axis.name.toList text
  let (content, rest) ← axis.readContent (skipBlanks rest)
  return (⟨axis, content⟩, rest)

def Item.read (text : List Char) : Option (Item × List Char) :=
  Axis.all.findSome? fun axis => axis.readItem text

def readSeparator (text : List Char) : Option (List Char) :=
  match skipBlanks text with
  | '.' :: rest => some (skipBlanks rest)
  | rest => if rest.length < text.length then some rest else none

theorem length_dropWhile_le {α : Type} (test : α → Bool) (list : List α) :
    (list.dropWhile test).length ≤ list.length :=
  (List.dropWhile_sublist test).length_le

theorem readWord_length {width : Nat} {text rest : List Char} {word : BitVec width}
    (found : readWord width text = some (word, rest)) : rest.length < text.length := by
  simp only [readWord] at found
  split at found
  · simp at found
  · rename_i digits
    simp only [Option.map_eq_some_iff, Prod.mk.injEq] at found
    obtain ⟨-, -, -, rfl⟩ := found
    cases text with
    | nil => simp at digits
    | cons first tail =>
      by_cases digit : first.isDigit
      · have shorter := length_dropWhile_le Char.isDigit tail
        simp only [List.dropWhile_cons, digit, if_true, List.length_cons]
        omega
      · simp [digit] at digits

theorem Field.read_length {width : Nat} {text rest : List Char} {field : Field width}
    (found : Field.read width text = some (field, rest)) : rest.length < text.length := by
  simp only [Field.read] at found
  split at found
  · rename_i word tail number
    simp only [Option.some.injEq, Prod.mk.injEq] at found
    obtain ⟨-, rfl⟩ := found
    exact readWord_length number
  · split at found <;> simp at found <;> simp [← found.2]

theorem Index3.readMark_length {mark : Char} {text rest : List Char}
    (found : readMark mark text = some rest) : rest.length < text.length := by
  cases text with
  | nil => simp [readMark] at found
  | cons first tail =>
    simp only [readMark] at found
    split at found <;> simp at found
    simp [found]

theorem Index3.readAxes_length {text rest : List Char} {index : Index3}
    (found : readAxes text = some (index, rest)) : rest.length < text.length := by
  simp only [readAxes, Option.bind_eq_bind, Option.bind_eq_some_iff, Option.pure_def, Option.some.injEq,
    Prod.exists, Prod.mk.injEq] at found
  obtain ⟨opened, first, x, afterX, second, firstComma, third, y, afterY, fourth, secondComma, fifth, z, afterZ,
    sixth, closed, seventh, -, rfl⟩ := found
  have one := readMark_length first
  have two := Field.read_length second
  have three := readMark_length third
  have four := Field.read_length fourth
  have five := readMark_length fifth
  have six := Field.read_length sixth
  have seven := readMark_length seventh
  omega

theorem Index3.read_length {text rest : List Char} {index : Index3}
    (found : Index3.read text = some (index, rest)) : rest.length < text.length := by
  simp only [Index3.read] at found
  split at found
  · simp at found; simp [← found.2]
  · simp at found; simp [← found.2]
  · simp at found; simp [← found.2]
  · exact readAxes_length found

theorem Axis.readContent_length {axis : Axis} {text rest : List Char} {content : axis.Content}
    (found : axis.readContent text = some (content, rest)) : rest.length < text.length := by
  cases axis with
  | dev | sm | wp | ln | kernel | grid => exact Field.read_length found
  | cluster | block | thread => exact Index3.read_length found

theorem readName_length {name text rest : List Char} (found : readName name text = some rest) :
    rest.length ≤ text.length := by
  induction name generalizing text with
  | nil => simp [readName] at found; simp [found]
  | cons expected name ih =>
    cases text with
    | nil => simp [readName] at found
    | cons first tail =>
      simp only [readName] at found
      split at found
      · have shorter := ih found
        simp only [List.length_cons]
        omega
      · simp at found

theorem Item.read_length {text rest : List Char} {item : Item}
    (found : Item.read text = some (item, rest)) : rest.length < text.length := by
  obtain ⟨axis, -, foundAxis⟩ := List.exists_of_findSome?_eq_some found
  simp only [Axis.readItem, Option.bind_eq_bind, Option.bind_eq_some_iff, Option.pure_def, Option.some.injEq,
    Prod.exists, Prod.mk.injEq] at foundAxis
  obtain ⟨afterName, named, content, afterContent, read, -, rfl⟩ := foundAxis
  have one := readName_length named
  have two := Axis.readContent_length read
  have three := length_dropWhile_le isBlank afterName
  simp only [skipBlanks] at two
  omega

theorem readSeparator_length {text rest : List Char} (found : readSeparator text = some rest) :
    rest.length < text.length := by
  simp only [readSeparator] at found
  have shorter := length_dropWhile_le isBlank text
  split at found
  · rename_i tail dot
    have inner := length_dropWhile_le isBlank tail
    simp only [skipBlanks] at dot found
    simp only [Option.some.injEq] at found
    rw [dot] at shorter
    simp only [List.length_cons] at shorter
    rw [← found]
    omega
  · split at found <;> simp at found
    rename_i progress
    rwa [← found]

def readMoreItems (text : List Char) : List Item × List Char :=
  match _separated : readSeparator text with
  | none => ([], text)
  | some afterSeparator =>
    match _found : Item.read afterSeparator with
    | none => ([], text)
    | some (item, rest) =>
      let (items, behind) := readMoreItems rest
      (item :: items, behind)
termination_by text.length
decreasing_by
  have one := readSeparator_length _separated
  have two := Item.read_length _found
  omega

def readItems (text : List Char) : List Item × List Char :=
  match Item.read text with
  | none => ([], text)
  | some (item, rest) =>
    let (items, behind) := readMoreItems rest
    (item :: items, behind)

def firstRepeated (seen : List Axis) : List Item → Option Axis
  | [] => none
  | item :: rest =>
    if item.axis ∈ seen then some item.axis else firstRepeated (item.axis :: seen) rest

def Coords.ofItems (items : List Item) : Coords :=
  items.foldl (fun coords item => coords.set item.axis item.content) .wild

def utf8Length (text : List Char) : Nat :=
  text.foldr (fun char length => char.utf8Size + length) 0

inductive CoordsFault where
  /-- The text is no list of items; the list that begins it, with the blanks behind it, ends at the offset. -/
  | unexpected (text : String) (offset : Nat)
  | repeated (axis : Axis)
deriving DecidableEq

def CoordsFault.message : CoordsFault → String
  | unexpected text offset =>
    "invalid coordinates `" ++ text ++ "`: unexpected input at offset " ++ toString offset
  | repeated axis => "field `" ++ axis.name ++ "` given more than once"

def Coords.parse (text : String) : Except CoordsFault Coords :=
  let whole := text.toList
  let (items, behind) := readItems (skipBlanks whole)
  let rest := skipBlanks behind
  if rest.isEmpty then
    match firstRepeated [] items with
    | some axis => .error (.repeated axis)
    | none => .ok (.ofItems items)
  else .error (.unexpected text (utf8Length whole - utf8Length rest))

end LaneScope
