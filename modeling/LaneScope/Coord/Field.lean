import LaneScope.Text.Decimal

/-!
One axis of a coordinate.  An axis holds a word of its width, stands for any value, or carries the marker of a
unit that is not valid.
-/

namespace LaneScope

inductive Field (width : Nat) where
  | value (word : BitVec width)
  | wildcard
  | invalid
deriving DecidableEq

namespace Field

variable {width : Nat}

def isValue : Field width → Bool
  | value _ => true
  | _ => false

def isWildcard : Field width → Bool
  | wildcard => true
  | _ => false

def isInvalid : Field width → Bool
  | invalid => true
  | _ => false

def word? : Field width → Option (BitVec width)
  | value word => some word
  | _ => none

def accepts (filter candidate : Field width) : Bool :=
  filter.isWildcard || filter == candidate

def keep (field : Field width) (kept : Bool) : Field width :=
  if kept then field else wildcard

def order : Field width → Field width → Ordering
  | value left, value right => compare left.toNat right.toNat
  | value _, _ => .lt
  | wildcard, value _ => .gt
  | wildcard, wildcard => .eq
  | wildcard, invalid => .lt
  | invalid, invalid => .eq
  | invalid, _ => .gt

def chars : Field width → List Char
  | value word => decimal word.toNat
  | wildcard => ['*']
  | invalid => ['?']

def text (field : Field width) : String :=
  String.ofList field.chars

def read (width : Nat) (text : List Char) : Option (Field width × List Char) :=
  match readWord width text with
  | some (word, rest) => some (value word, rest)
  | none =>
    match text with
    | '*' :: rest => some (wildcard, rest)
    | '?' :: rest => some (invalid, rest)
    | _ => none

end Field

end LaneScope
