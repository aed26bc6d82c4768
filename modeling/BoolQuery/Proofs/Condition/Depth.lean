import BoolQuery.Condition.Walk

/-! The depth that the walk finds is the height of the tree. -/
namespace BoolQuery.Condition

-- A node and its children reach equally deep.
theorem height_children_le_iff (node : Condition) (level limit : Nat) :
    node.height + level ≤ limit + 1 ↔
      level ≤ limit ∧ ∀ child ∈ node.children, child.height + (level + 1) ≤ limit + 1 := by
  cases node with
  | holds field value | range field lower upper withLower withUpper =>
    simp only [height, children, List.not_mem_nil, false_implies, implies_true, and_true]
    omega
  | and left right | or left right =>
    simp only [height, children, List.forall_mem_cons, List.not_mem_nil, false_implies,
      implies_true, and_true]
    omega
  | not inner =>
    simp only [height, children, List.forall_mem_singleton]
    omega

/-- The walk finds the deepest level below all listed nodes. -/
theorem deepest_le_iff (found : Nat) (pending : List (Condition × Nat)) (limit : Nat) :
    deepest found pending ≤ limit ↔
      found ≤ limit ∧ ∀ node ∈ pending, node.1.height + node.2 ≤ limit + 1 := by
  induction found, pending using deepest.induct with
  | case1 found => simp [deepest]
  | case2 found node level rest ih =>
    rw [deepest, ih, List.forall_mem_append, List.forall_mem_map, List.forall_mem_cons,
      height_children_le_iff, Nat.max_le, and_assoc, and_assoc]

theorem depth_eq_height (condition : Condition) : condition.depth = condition.height := by
  have same (limit : Nat) : condition.depth ≤ limit ↔ condition.height ≤ limit := by
    simp [depth, deepest_le_iff]
  exact Nat.le_antisymm ((same _).mpr (Nat.le_refl _)) ((same _).mp (Nat.le_refl _))

end BoolQuery.Condition
