import LaneScope.Text.Decimal

/-!
Values of the interchange format, and the rules by which types are read from them.  A record may be given as an
object, where unknown keys are passed over, or as the list of its fields in order.
-/

namespace LaneScope

inductive Value where
  | null
  | flag (flag : Bool)
  | number (number : Nat)
  /-- A number that is negative or not written as an integer, which nothing here accepts. -/
  | otherNumber
  | text (text : String)
  | list (items : List Value)
  | record (fields : List (String × Value))
deriving Inhabited

class Interchange (α : Type) where
  encode : α → Value
  decode : Value → Option α

namespace Value

def key? (fields : List (String × Value)) (key : String) : Option Value :=
  (fields.find? fun field => field.1 == key).map Prod.snd

def fields (names : List String) : Value → Option (List (Option Value))
  | record fields => some (names.map (key? fields))
  | list items => if items.length = names.length then some (items.map some) else none
  | _ => none

/-- Like `fields`, except that a list of fields may break off early. -/
def openFields (names : List String) : Value → Option (List (Option Value))
  | record fields => some (names.map (key? fields))
  | list items =>
    if items.length ≤ names.length then
      some (items.map some ++ List.replicate (names.length - items.length) none)
    else none
  | _ => none

def required {α : Type} [Interchange α] (field : Option Value) : Option α :=
  field.bind Interchange.decode

/-- Reads a field that may be missing, but not wrong. -/
def withDefault {α : Type} [Interchange α] (default : α) : Option Value → Option α
  | none => some default
  | some value => Interchange.decode value

def optional {α : Type} [Interchange α] : Option Value → Option (Option α)
  | none => some none
  | some null => some none
  | some value => (Interchange.decode value).map some

/-- The alternative that a value names without a content: as a text, or as the one key of an object. -/
def bareName? : Value → Option String
  | text name => some name
  | record [(name, null)] => some name
  | _ => none

def content? (name : String) : Value → Option Value
  | record [(key, value)] => if key = name then some value else none
  | _ => none

def oneOf {α : Type} (alternatives : List α) (name : α → String) (value : Value) : Option α :=
  value.bareName?.bind fun given => alternatives.find? fun alternative => name alternative == given

end Value

instance : Interchange Bool where
  encode flag := .flag flag
  decode
    | .flag flag => some flag
    | _ => none

instance {width : Nat} : Interchange (BitVec width) where
  encode word := .number word.toNat
  decode
    | .number number => toWord? width number
    | _ => none

end LaneScope
