import BoolQuery.Proofs.Condition.Depth

/-! Chains, by their first operand, and how deep they are. Every operand but the last is the left
side of an operator, and the last is the right side of the operator of the one before it. -/
namespace BoolQuery.Condition

section Operands

variable {join : Condition → Condition → Condition} {others : List Condition} {whole : Condition}

theorem joinOnto_concat (join : Condition → Condition → Condition) (last first : Condition)
    (others : List Condition) :
    joinOnto join last (others ++ [first]) = join first (joinOnto join last others) := by
  simp [joinOnto]

theorem chain_cons (chained : chain? join others = some whole) (first : Condition) :
    chain? join (first :: others) = some (join first whole) := by
  unfold chain? at chained ⊢
  rw [List.reverse_cons]
  cases latest : others.reverse with
  | nil =>
    rw [latest] at chained
    cases chained
  | cons last earlier =>
    rw [latest] at chained
    cases chained
    exact congrArg some (joinOnto_concat join last first earlier)

end Operands

section Levels

/-- How deep a chain goes in each of its operands. The operand with the number `i`, counted from 1,
stands below `i` operators; only the last has no operator of its own. -/
def levels (operands : List Condition) : List Nat :=
  (operands.zipIdx 1).map fun entry => entry.1.depth + min entry.2 (operands.length - 1)

theorem levels_cons (first : Condition) {others : List Condition} (more : others ≠ []) :
    levels (first :: others) = (first.depth + 1) :: (levels others).map (· + 1) := by
  have behind : 1 ≤ others.length := List.length_pos_iff.mpr more
  have deeper (place : Nat) : min (place + 1) others.length = min place (others.length - 1) + 1 := by
    omega
  simp only [levels, List.zipIdx_cons, List.zipIdx_succ, List.map_cons, List.map_map,
    List.length_cons, Nat.add_sub_cancel, Nat.min_eq_left behind]
  refine congrArg _ (List.map_congr_left fun entry _ => ?_)
  simp only [Function.comp_apply, deeper, Nat.add_assoc]

theorem max_cons_succ {first deepest : Nat} {others : List Nat}
    (found : others.max? = some deepest) :
    ((first + 1) :: others.map (· + 1)).max? = some (max first deepest + 1) := by
  obtain ⟨member, bounds⟩ := List.max?_eq_some_iff.mp found
  rw [List.max?_eq_some_iff, List.forall_mem_cons, List.forall_mem_map]
  refine ⟨?_, by omega, fun other listed => ?_⟩
  · rcases Nat.le_total first deepest with less | more
    · rw [Nat.max_eq_right less]
      exact List.mem_cons_of_mem _ (List.mem_map_of_mem member)
    · rw [Nat.max_eq_left more]
      exact List.mem_cons_self
  · have := bounds other listed
    omega

variable {join : Condition → Condition → Condition}

theorem depth_joined (joined : ∀ left right, (join left right).height =
      max left.height right.height + 1) (left right : Condition) :
    (join left right).depth = max left.depth right.depth + 1 := by
  simp only [depth_eq_height, joined]

/-- A chain is as deep as the deepest of its operands at their levels. -/
theorem chain_depth (joined : ∀ left right, (join left right).height =
      max left.height right.height + 1) (operands : List Condition) :
    (chain? join operands).map depth = (levels operands).max? := by
  induction operands with
  | nil => rfl
  | cons first others ih =>
    cases others with
    | nil => rfl
    | cons second rest =>
      cases chained : chain? join (second :: rest) with
      | none =>
        obtain ⟨last, earlier, latest⟩ :=
          List.exists_cons_of_ne_nil (List.reverse_ne_nil_iff.mpr (List.cons_ne_nil second rest))
        simp [chain?, latest] at chained
      | some whole =>
        rw [chained, Option.map_some] at ih
        rw [chain_cons chained, Option.map_some, depth_joined joined,
          levels_cons first (List.cons_ne_nil second rest), max_cons_succ ih.symm]

/-- The depth that the walk with a list of pending nodes finds is the height by recursion on the
tree, and a chain of either operator is as deep as the deepest of its operands at their levels. -/
theorem depth_of_trees_and_chains :
    (∀ condition : Condition, condition.depth = condition.height) ∧
      ∀ operands : List Condition,
        (anyOf? operands).map depth = (levels operands).max? ∧
        (allOf? operands).map depth = (levels operands).max? :=
  ⟨depth_eq_height, fun operands => ⟨chain_depth (fun _ _ => rfl) operands,
    chain_depth (fun _ _ => rfl) operands⟩⟩

-- The last of three operands is no deeper in the chain than the one before it.
example : levels [term "a", .not (term "b"), .not (term "c")] = [2, 4, 4] := by
  cbv

end Levels

end BoolQuery.Condition
