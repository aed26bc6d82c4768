import BoolQuery.Json.Writer
import BoolQuery.Text.DisplayWidth
import BoolQuery.Token

/-! Tokens listed for people, as a table drawn with box characters, and for programs, as JSON. The cells of
a table are left-aligned with a space on each side, a cell may have several lines, and a column is as
wide as its widest line. -/
namespace BoolQuery

structure Table where
  header : List String
  rows : List (List String)
  deriving DecidableEq, Repr

namespace Table

def cellLines (cell : String) : List String := cell.splitOn "\n"

def cellWidth (cell : String) : Nat :=
  ((cellLines cell).map Text.displayWidth).foldl max 0

def widen (widths : List Nat) (row : List String) : List Nat :=
  List.zipWith max widths (row.map cellWidth)

def widths (table : Table) : List Nat :=
  table.rows.foldl widen (table.header.map cellWidth)

def padTo (width : Nat) (text : String) : String := text.pushn ' ' (width - Text.displayWidth text)

def textLine (widths : List Nat) (cells : List String) : String :=
  "│ " ++ " ┆ ".intercalate (List.zipWith padTo widths cells) ++ " │"

def rowLines (widths : List Nat) (row : List String) : List String :=
  let cells := row.map cellLines
  let height := (cells.map List.length).foldl max 0
  (List.range height).map fun index => textLine widths (cells.map fun lines => lines[index]?.getD "")

def borderLine (widths : List Nat) (left fill meet right : String) : String :=
  left ++ meet.intercalate (widths.map fun width => String.join (List.replicate (width + 2) fill)) ++
    right

def drawnLines (table : Table) : List String :=
  let widths := table.widths
  borderLine widths "┌" "─" "┬" "┐" :: rowLines widths table.header ++
    borderLine widths "╞" "═" "╪" "╡" :: table.rows.flatMap (rowLines widths) ++
    [borderLine widths "└" "─" "┴" "┘"]

def draw (table : Table) : String := "\n".intercalate table.drawnLines

end Table

namespace Token

def table (tokens : List Token) : Table where
  header := ["Offset", "Kind", "Text"]
  rows := tokens.map fun token =>
    [toString token.offset, token.kind.name, token.kind.text?.getD ""]

/-- The object of a token; only words and phrases have a text. -/
def toJson (token : Token) : Json :=
  .object <|
    [("offset", .number (.integer token.offset)), ("kind", .string token.kind.name)] ++
      (token.kind.text?.map fun text => ("text", Json.string text)).toList

def listJson (tokens : List Token) : String := (Json.array (tokens.map toJson)).pretty

end Token
end BoolQuery
