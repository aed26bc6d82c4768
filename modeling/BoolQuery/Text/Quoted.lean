import BoolQuery.Text.GraphemeExtend
import BoolQuery.Text.Printable

/-! Text between double quotes, with every character made visible. A quote or a backslash inside
is escaped, so the closing quote is the first one that no backslash precedes. -/
namespace BoolQuery.Text

def hexDigits (n : Nat) : List Char := Nat.toDigits 16 n

def shortEscape (c : Char) : Option Char :=
  match c with
  | '\x00' => some '0'
  | '\t' => some 't'
  | '\n' => some 'n'
  | '\r' => some 'r'
  | '\\' => some '\\'
  | '\x22' => some '\x22'
  | _ => none

/-- A character as it is written between the quotes: itself when it can be seen, else its short
escape, else its code point in braces. -/
def visible (c : Char) : List Char :=
  match shortEscape c with
  | some letter => ['\\', letter]
  | none =>
    if !extendsGrapheme c && isPrintable c then [c]
    else ['\\', 'u', '\x7b'] ++ hexDigits c.toNat ++ ['\x7d']

def quoted (text : String) : String :=
  String.ofList ('\x22' :: text.toList.flatMap visible ++ ['\x22'])

end BoolQuery.Text
