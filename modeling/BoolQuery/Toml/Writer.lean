import BoolQuery.Text.Quoted

/-! TOML strings from text. Of the four ways to quote a string the first one that needs no escapes
is taken; a text that needs some is written between double quotes. -/
namespace BoolQuery.Toml

def needsCode (c : Char) : Bool :=
  (c.toNat < 0x20 && c ≠ '\t' && c ≠ '\n') || c.toNat = 0x7f

/-- The longest run of a character in a text; `current` of them stand directly in front of it. -/
def longestRun (mark : Char) (current best : Nat) : List Char → Nat
  | [] => max current best
  | c :: rest =>
    if c = mark then longestRun mark (current + 1) best rest
    else longestRun mark 0 (max current best) rest

inductive Style
  | basic
  | literal
  | basicLines
  | literalLines
  deriving DecidableEq, Repr

/-- A text can be written in a style without escapes. Tabs count as written plainly. -/
def Style.fits (style : Style) (text : List Char) : Bool :=
  !text.any needsCode &&
    match style with
    | .basic => !text.any fun c => c = '\\' || c = '\x22' || c = '\n'
    | .literal => !text.any fun c => c = '\'' || c = '\n'
    | .basicLines => !text.contains '\\' && longestRun '\x22' 0 0 text ≤ 2
    | .literalLines => longestRun '\'' 0 0 text ≤ 2

def styleOf (text : List Char) : Style :=
  if Style.basic.fits text then .basic
  else if Style.literal.fits text then .literal
  else if Style.basicLines.fits text then .basicLines
  else if Style.literalLines.fits text then .literalLines
  else if text.contains '\n' then .basicLines
  else .basic

/-- The letter of an escape of one letter; a line break is escaped only in a string of one line. -/
def escapeLetter? (lines : Bool) (c : Char) : Option Char :=
  match c with
  | '\x08' => some 'b'
  | '\t' => some 't'
  | '\n' => if lines then none else some 'n'
  | '\x0c' => some 'f'
  | '\r' => some 'r'
  | '\\' => some '\\'
  | _ => none

def codeEscape (c : Char) : List Char :=
  ['\\', 'u', '0', '0', (Nat.digitChar (c.toNat / 16)).toUpper,
    (Nat.digitChar (c.toNat % 16)).toUpper]

/-- The text between double quotes. `run` quotes stand directly in front; the first quote that
would make a run of `limit` is escaped. -/
def escapeFrom (lines : Bool) (limit run : Nat) : List Char → List Char
  | [] => []
  | c :: rest =>
    if c = '\x22' then
      if run + 1 < limit then c :: escapeFrom lines limit (run + 1) rest
      else '\\' :: c :: escapeFrom lines limit 0 rest
    else match escapeLetter? lines c with
      | some letter => '\\' :: letter :: escapeFrom lines limit 0 rest
      | none =>
        if needsCode c then codeEscape c ++ escapeFrom lines limit 0 rest
        else c :: escapeFrom lines limit 0 rest

/-- The quotes around a text, and a line break behind those in front when the text has one. -/
def inLines (mark : Char) (text written : List Char) : List Char :=
  let quotes := [mark, mark, mark]
  quotes ++ (if text.contains '\n' then ['\n'] else []) ++ written ++ quotes

def Style.write (style : Style) (text : List Char) : List Char :=
  match style with
  | .basic => '\x22' :: escapeFrom false 1 0 text ++ ['\x22']
  | .literal => '\'' :: text ++ ['\'']
  | .basicLines => inLines '\x22' text (escapeFrom true 3 0 text)
  | .literalLines => inLines '\'' text text

def stringText (text : String) : String :=
  String.ofList ((styleOf text.toList).write text.toList)

end BoolQuery.Toml
