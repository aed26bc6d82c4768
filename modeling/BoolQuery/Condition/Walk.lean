import BoolQuery.Condition

/-! Questions about a whole tree: its depth, the fields it names, and whether two trees are equal.
A flat query of many words is a tree as deep as the query is long, so each walk keeps the nodes
still to visit on a list of its own; the plain recursion that it stands for is beside it. -/
namespace BoolQuery.Condition

section Depth

def height : Condition → Nat
  | .holds _ _ | .range _ _ _ _ _ => 1
  | .and left right | .or left right => max left.height right.height + 1
  | .not inner => inner.height + 1

/-- The deepest level met, over nodes that are listed with their levels. -/
def deepest (found : Nat) (pending : List (Condition × Nat)) : Nat :=
  match pending with
  | [] => found
  | (node, level) :: rest =>
    deepest (max found level) (node.children.map (·, level + 1) ++ rest)
termination_by totalSize (pending.map Prod.fst)
decreasing_by
  have := totalSize_children node
  simp [Function.comp_def, totalSize_cons, totalSize_append]
  omega

/-- Nodes on the longest path from the root to a leaf, found without recursion on the tree. -/
def depth (condition : Condition) : Nat := deepest 0 [(condition, 1)]

end Depth

section Fields

def field? : Condition → Option String
  | .holds field _ | .range field _ _ _ _ => if field = "" then none else some field
  | .and _ _ | .or _ _ | .not _ => none

def fieldNames : Condition → List String
  | .and left right | .or left right => left.fieldNames ++ right.fieldNames
  | .not inner => inner.fieldNames
  | leaf => leaf.field?.toList

def noteField (found : List String) (field : Option String) : List String :=
  match field with
  | some name => if found.contains name then found else name :: found
  | none => found

/-- The names found, latest first, when the listed nodes are visited in order. -/
def collectFields (found : List String) (pending : List Condition) : List String :=
  match pending with
  | [] => found
  | node :: rest => collectFields (noteField found node.field?) (node.children ++ rest)
termination_by totalSize pending
decreasing_by
  have := totalSize_children node
  simp [totalSize_cons, totalSize_append]
  omega

/-- The distinct field names, in the order in which a reader meets them. -/
def fields (condition : Condition) : List String := (collectFields [] [condition]).reverse

end Fields

section Equality

def sameRoot : Condition → Condition → Bool
  | .holds field value, .holds field' value' => field = field' && value = value'
  | .range field lower upper withLower withUpper,
    .range field' lower' upper' withLower' withUpper' =>
    field = field' && lower = lower' && upper = upper' && withLower = withLower' &&
      withUpper = withUpper'
  | .and _ _, .and _ _ | .or _ _, .or _ _ | .not _, .not _ => true
  | _, _ => false

theorem totalSize_zip_le (first second : List Condition) :
    totalSize ((first.zip second).map Prod.fst) ≤ totalSize first := by
  induction first generalizing second with
  | nil => exact Nat.le_refl _
  | cons node rest ih =>
    cases second with
    | nil => exact Nat.zero_le _
    | cons other others =>
      rw [List.zip_cons_cons, List.map_cons, totalSize_cons, totalSize_cons]
      exact Nat.add_le_add_left (ih others) _

-- Pairing the children with others leaves no more work than the children are.
theorem totalSize_zip_children (a b : Condition) :
    totalSize ((a.children.zip b.children).map Prod.fst) < a.size :=
  Nat.lt_of_le_of_lt (totalSize_zip_le _ _) (totalSize_children a)

/-- Each listed pair is a pair of equal trees. The first difference ends the walk. -/
def agree (pending : List (Condition × Condition)) : Bool :=
  match pending with
  | [] => true
  | (a, b) :: rest => if sameRoot a b then agree (a.children.zip b.children ++ rest) else false
termination_by totalSize (pending.map Prod.fst)
decreasing_by
  have := totalSize_zip_children a b
  simp [totalSize_cons, totalSize_append]
  omega

instance : BEq Condition := ⟨fun a b => agree [(a, b)]⟩

end Equality

end BoolQuery.Condition
