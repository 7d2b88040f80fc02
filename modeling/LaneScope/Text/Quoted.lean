import LaneScope.Text.Shown

/-!
Quoted texts.  A text stands between double quotes; the quote and the backslash are escaped by a backslash, the
usual controls have letters, and every other character that is not shown as itself is written by its code point.
-/

namespace LaneScope

def quotedChar (char : Char) : List Char :=
  match char with
  | '"' => ['\\', '"']
  | '\\' => ['\\', '\\']
  | '\n' => ['\\', 'n']
  | '\r' => ['\\', 'r']
  | '\t' => ['\\', 't']
  | '\x00' => ['\\', '0']
  | _ =>
    if isShown char then [char]
    else '\\' :: 'u' :: '{' :: Nat.toDigits 16 char.toNat ++ ['}']

def quoted (text : String) : String :=
  String.ofList ('"' :: text.toList.flatMap quotedChar ++ ['"'])

end LaneScope
