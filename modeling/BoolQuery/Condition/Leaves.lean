import BoolQuery.Condition.Walk

/-! The nodes of a condition in the order of a reader, and what its leaves say piece by piece. -/
namespace BoolQuery.Condition

inductive Part
  | field (name : String)
  | value (value : String)
  | bound (bound : Option String)
  deriving DecidableEq, Repr

/-- All nodes, each in front of its children and the left one in front of the right one. -/
def nodes (condition : Condition) : List Condition :=
  condition :: match condition with
    | .holds _ _ | .range _ _ _ _ _ => []
    | .and left right | .or left right => left.nodes ++ right.nodes
    | .not inner => inner.nodes

def leaves : Condition → List Condition
  | .and left right | .or left right => left.leaves ++ right.leaves
  | .not inner => inner.leaves
  | leaf => [leaf]

/-- What a leaf says: its field, if it names one, and its value or its two bounds. -/
def leafParts (leaf : Condition) : List Part :=
  leaf.field?.toList.map .field ++ match leaf with
    | .holds _ value => [.value value]
    | .range _ lower upper _ _ => [.bound lower, .bound upper]
    | .and _ _ | .or _ _ | .not _ => []

def parts (condition : Condition) : List Part := condition.leaves.flatMap leafParts

def isNot : Condition → Bool
  | .not _ => true
  | _ => false

def isRange : Condition → Bool
  | .range _ _ _ _ _ => true
  | _ => false

def namesField (condition : Condition) : Bool := condition.field?.isSome

end BoolQuery.Condition
