import BoolQuery.Condition
import BoolQuery.Text.Quoted

/-! A condition as an indented outline: one line per node, children below their parent and two
spaces further in. -/
namespace BoolQuery.Condition

def outlineBound (bound : Option String) : String :=
  match bound with
  | some value => Text.quoted value
  | none => "*"

def outlineLabel : Condition → String
  | .holds field value =>
    if field = "" then "Match(" ++ Text.quoted value ++ ")"
    else "Match(" ++ field ++ ": " ++ Text.quoted value ++ ")"
  | .and _ _ => "And"
  | .or _ _ => "Or"
  | .not _ => "Not"
  | .range field lower upper withLower withUpper =>
    "TimeRange(" ++ field ++ ": " ++ (if withLower then "[" else "\x7b") ++ outlineBound lower ++
      " TO " ++ outlineBound upper ++ (if withUpper then "]" else "\x7d") ++ ")"

/-- Writes the lines of the listed nodes and of all below them behind `out`; each node is listed
with its level. -/
def outlineFrom (out : String) (pending : List (Condition × Nat)) : String :=
  match pending with
  | [] => out
  | (node, level) :: rest =>
    outlineFrom ((out.pushn ' ' (2 * level) ++ node.outlineLabel).push '\n')
      (node.children.map (·, level + 1) ++ rest)
termination_by totalSize (pending.map Prod.fst)
decreasing_by
  have := totalSize_children node
  simp [Function.comp_def, totalSize_cons, totalSize_append]
  omega

def outline (condition : Condition) : String := outlineFrom "" [(condition, 0)]

end BoolQuery.Condition
