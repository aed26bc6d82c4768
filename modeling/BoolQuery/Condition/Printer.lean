import BoolQuery.Condition
import BoolQuery.Token

/-! A condition as a query that reads back as the same condition. Operators are always written
out, and a group is written only where the tree would come out differently without it. -/
namespace BoolQuery.Condition
open Token

section Leaves

def isBareValue (value : String) : Bool :=
  value ≠ "" && (reserved? value).isNone &&
    !value.toList.any fun c => isDelimiter c || c = '\\'

def valueText (value : String) : String :=
  if isBareValue value then value
  else String.ofList ('\x22' ::
    value.toList.flatMap (fun c => if c = '\x22' || c = '\\' then ['\\', c] else [c]) ++ ['\x22'])

def escapeField (name : List Char) : List Char :=
  name.flatMap fun c => if isDelimiter c || c = '\\' then ['\\', c] else [c]

/-- A field name with its colon, nothing for the empty name. The first character of a keyword is
escaped too: one escape anywhere makes the word plain. -/
def fieldText (field : String) : String :=
  if field = "" then ""
  else match (reserved? field).isSome, field.toList with
    | true, first :: rest => String.ofList ('\\' :: first :: escapeField rest ++ [':'])
    | _, name => String.ofList (escapeField name ++ [':'])

def boundText (bound : Option String) : String :=
  match bound with
  | some value => valueText value
  | none => "*"

def holdsText (field value : String) : String := fieldText field ++ valueText value

def rangeText (field : String) (lower upper : Option String) (withLower withUpper : Bool) :
    String :=
  fieldText field ++ (if withLower then "[" else "\x7b") ++ boundText lower ++ " TO " ++
    boundText upper ++ (if withUpper then "]" else "\x7d")

end Leaves

section Grouping

-- A chain is read back leaning to the right, so a left operand that is such a chain itself needs a
-- group, and a right operand does not.

def groupsLeftOfOr (left : Condition) : Bool := left.isOr

def groupsLeftOfAnd (left : Condition) : Bool := left.isOr || left.isAnd

def groupsRightOfAnd (right : Condition) : Bool := right.isOr

def groupsUnderNot (inner : Condition) : Bool := inner.isOr || inner.isAnd

end Grouping

section Recursive

def inGroup (group : Bool) (text : String) : String := if group then "(" ++ text ++ ")" else text

/-- The query of a condition, written by recursion on the tree. -/
def render : Condition → String
  | .holds field value => holdsText field value
  | .or left right => inGroup (groupsLeftOfOr left) left.render ++ " OR " ++ right.render
  | .and left right =>
    inGroup (groupsLeftOfAnd left) left.render ++ " AND " ++
      inGroup (groupsRightOfAnd right) right.render
  | .not inner => "NOT " ++ inGroup (groupsUnderNot inner) inner.render
  | .range field lower upper withLower withUpper => rangeText field lower upper withLower withUpper

end Recursive

section Stack

inductive Piece
  | node (condition : Condition)
  | text (text : String)

def pushOperand (group : Bool) (operand : Condition) (pending : List Piece) : List Piece :=
  if group then .text "(" :: .node operand :: .text ")" :: pending else .node operand :: pending

/-- Writes a leaf behind `out` at once. The parts of an operator are put on the stack from the last to
the first, so that they come off in the order in which they are read. -/
def writeNode (out : String) (pending : List Piece) : Condition → String × List Piece
  | .holds field value => (out ++ holdsText field value, pending)
  | .or left right =>
    (out, pushOperand (groupsLeftOfOr left) left (.text " OR " :: .node right :: pending))
  | .and left right =>
    (out, pushOperand (groupsLeftOfAnd left) left
      (.text " AND " :: pushOperand (groupsRightOfAnd right) right pending))
  | .not inner => (out, .text "NOT " :: pushOperand (groupsUnderNot inner) inner pending)
  | .range field lower upper withLower withUpper =>
    (out ++ rangeText field lower upper withLower withUpper, pending)

def Piece.weight : Piece → Nat
  | .node condition => 8 * condition.size
  | .text _ => 1

def totalWeight : List Piece → Nat
  | [] => 0
  | piece :: pending => piece.weight + totalWeight pending

theorem totalWeight_cons (piece : Piece) (pending : List Piece) :
    totalWeight (piece :: pending) = piece.weight + totalWeight pending := rfl

theorem totalWeight_pushOperand (group : Bool) (operand : Condition) (pending : List Piece) :
    totalWeight (pushOperand group operand pending) ≤ 8 * operand.size + 2 + totalWeight pending := by
  unfold pushOperand
  split
  · simp only [totalWeight_cons, Piece.weight]
    omega
  · simp only [totalWeight_cons, Piece.weight]
    omega

theorem totalWeight_writeNode (out : String) (pending : List Piece) (condition : Condition) :
    totalWeight (condition.writeNode out pending).2 < 8 * condition.size + totalWeight pending := by
  cases condition with
  | holds field value => simp [writeNode, size]
  | range field lower upper withLower withUpper => simp [writeNode, size]
  | or left right =>
    have := totalWeight_pushOperand (groupsLeftOfOr left) left (.text " OR " :: .node right :: pending)
    simp only [totalWeight_cons, Piece.weight] at this
    simp only [writeNode, size]
    omega
  | and left right =>
    have := totalWeight_pushOperand (groupsRightOfAnd right) right pending
    have := totalWeight_pushOperand (groupsLeftOfAnd left) left
      (.text " AND " :: pushOperand (groupsRightOfAnd right) right pending)
    simp only [totalWeight_cons, Piece.weight] at this
    simp only [writeNode, size]
    omega
  | not inner =>
    have := totalWeight_pushOperand (groupsUnderNot inner) inner pending
    simp only [writeNode, totalWeight_cons, Piece.weight, size]
    omega

def write (out : String) (pending : List Piece) : String :=
  match pending with
  | [] => out
  | .text text :: rest => write (out ++ text) rest
  | .node condition :: rest =>
    let written := condition.writeNode out rest
    write written.1 written.2
termination_by totalWeight pending
decreasing_by
  · simp [totalWeight_cons, Piece.weight]
  · exact totalWeight_writeNode out rest condition

/-- The query of a condition, written without recursion on the tree. -/
def toQuery (condition : Condition) : String := write "" [.node condition]

end Stack

section Nesting

def groupLevel (group : Bool) : Nat := if group then 1 else 0

/-- Groups and NOTs on the way to the innermost leaf, in the query that a condition is written as. -/
def nesting : Condition → Nat
  | .holds _ _ | .range _ _ _ _ _ => 0
  | .or left right => max (left.nesting + groupLevel (groupsLeftOfOr left)) right.nesting
  | .and left right =>
    max (left.nesting + groupLevel (groupsLeftOfAnd left))
      (right.nesting + groupLevel (groupsRightOfAnd right))
  | .not inner => inner.nesting + groupLevel (groupsUnderNot inner) + 1

/-- Every range of a condition has a field. Only such a condition can be written as a query. -/
def rangesHaveFields : Condition → Bool
  | .holds _ _ => true
  | .range field _ _ _ _ => field ≠ ""
  | .and left right | .or left right => left.rangesHaveFields && right.rangesHaveFields
  | .not inner => inner.rangesHaveFields

end Nesting

end BoolQuery.Condition
