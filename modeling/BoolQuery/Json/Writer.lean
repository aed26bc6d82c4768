import BoolQuery.Json

/-! The text of a JSON value: one item or member a line, two spaces for each level of nesting. -/
namespace BoolQuery.Json

def controlLetter? (c : Char) : Option Char :=
  match c with
  | '\x08' => some 'b'
  | '\t' => some 't'
  | '\n' => some 'n'
  | '\x0c' => some 'f'
  | '\r' => some 'r'
  | _ => none

/-- A character inside a string. Only quotes, backslashes and control characters are escaped. -/
def stringChar (c : Char) : List Char :=
  if c = '\x22' || c = '\\' then ['\\', c]
  else match controlLetter? c with
    | some letter => ['\\', letter]
    | none =>
      if c.toNat < 0x20 then
        ['\\', 'u', '0', '0', Nat.digitChar (c.toNat / 16), Nat.digitChar (c.toNat % 16)]
      else [c]

def stringText (text : String) : String :=
  String.ofList ('\x22' :: text.toList.flatMap stringChar ++ ['\x22'])

def newline (level : Nat) (out : String) : String := (out.push '\n').pushn ' ' (2 * level)

mutual

/-- Writes a value at a level behind `out`. An array or object without content stays on its
line. -/
def writeValue (level : Nat) (out : String) : Json → String
  | .null => out ++ "null"
  | .bool value => out ++ toString value
  | .number value => out ++ value.text
  | .string text => out ++ stringText text
  | .array [] => out ++ "[]"
  | .array (first :: rest) =>
    let out := writeItems level (writeValue (level + 1) (newline (level + 1) (out ++ "[")) first) rest
    newline level out ++ "]"
  | .object [] => out ++ "\x7b\x7d"
  | .object ((key, first) :: rest) =>
    let out := newline (level + 1) (out ++ "\x7b") ++ stringText key ++ ": "
    newline level (writeMembers level (writeValue (level + 1) out first) rest) ++ "\x7d"

def writeItems (level : Nat) (out : String) : List Json → String
  | [] => out
  | item :: rest => writeItems level (writeValue (level + 1) (newline (level + 1) (out ++ ",")) item) rest

def writeMembers (level : Nat) (out : String) : List (String × Json) → String
  | [] => out
  | (key, value) :: rest =>
    let out := newline (level + 1) (out ++ ",") ++ stringText key ++ ": "
    writeMembers level (writeValue (level + 1) out value) rest

end

def pretty (value : Json) : String := writeValue 0 "" value

end BoolQuery.Json
