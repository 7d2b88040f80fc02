/-!
Numerals.  Numbers are written in base ten without leading zeros, or in base sixteen with a leading `0x`;
decimal digits are read back with any number of leading zeros.
-/

namespace LaneScope

def decimal (number : Nat) : List Char :=
  Nat.toDigits 10 number

def hexadecimal (number : Nat) : List Char :=
  '0' :: 'x' :: Nat.toDigits 16 number

def ofDecimal (digits : List Char) : Nat :=
  Nat.ofDigitChars 10 digits 0

def toWord? (width number : Nat) : Option (BitVec width) :=
  if (BitVec.ofNat width number).toNat = number then some (BitVec.ofNat width number) else none

/-- Takes the longest run of ASCII digits off the text, provided there is one and its number fits the word. -/
def readWord (width : Nat) (text : List Char) : Option (BitVec width × List Char) :=
  let digits := text.takeWhile Char.isDigit
  if digits.isEmpty then none
  else (toWord? width (ofDecimal digits)).map fun word => (word, text.dropWhile Char.isDigit)

end LaneScope
