import BoolQuery.Condition.Json
import BoolQuery.Condition.Outline
import BoolQuery.Condition.Printer
import BoolQuery.Condition.Walk
import BoolQuery.Palette

/-! Parsed queries as they are printed, in one of three formats. -/
namespace BoolQuery

inductive Format
  | tree
  | json
  | query
  deriving DecidableEq, Repr

namespace Format

def name : Format → String
  | .tree => "tree"
  | .json => "json"
  | .query => "query"

def ofName? (text : String) : Option Format :=
  [Format.tree, .json, .query].find? fun format => format.name = text.toLower

def ofExactName? (text : String) : Option Format :=
  [Format.tree, .json, .query].find? fun format => format.name = text

end Format

/-- Conditions deeper than this are not written as JSON. -/
def maxJsonDepth : Nat := 1024

structure TooDeepForJson where
  depth : Nat
  deriving DecidableEq, Repr

def TooDeepForJson.message (refusal : TooDeepForJson) : String :=
  "condition tree is " ++ toString refusal.depth ++ " levels deep; JSON output supports at most " ++
    toString maxJsonDepth

def checkJsonDepth (condition : Condition) : Except TooDeepForJson Unit :=
  if condition.depth > maxJsonDepth then .error ⟨condition.depth⟩ else .ok ()

def renderCondition (palette : Palette) (highlighter : Highlighter) (format : Format)
    (condition : Condition) : Except TooDeepForJson String :=
  match format with
  | .tree => .ok condition.outline
  | .query => .ok (condition.toQuery ++ "\n")
  | .json => do
    checkJsonDepth condition
    return palette.highlight highlighter .json condition.toJson.pretty ++ "\n"

def batchEntry (entry : String × Condition) : Json :=
  .object [("query", .string entry.1), ("condition", entry.2.toJson)]

/-- Several queries with their conditions as one JSON array; one condition that is too deep refuses
them all. -/
def renderBatch (palette : Palette) (highlighter : Highlighter) (entries : List (String × Condition)) :
    Except TooDeepForJson String := do
  entries.forM fun entry => checkJsonDepth entry.2
  return palette.highlight highlighter .json (Json.array (entries.map batchEntry)).pretty ++ "\n"

end BoolQuery
