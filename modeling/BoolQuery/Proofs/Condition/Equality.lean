import BoolQuery.Condition.Walk

/-! The walk over pairs of nodes finds two conditions equal just when they are the same tree. -/
namespace BoolQuery.Condition

section Equality

variable {a b : Condition}

-- Children stand side by side only where the roots are of one kind, so no child is left over.
theorem eq_iff_roots :
    a = b ↔ sameRoot a b = true ∧ ∀ pair ∈ a.children.zip b.children, pair.1 = pair.2 := by
  cases a with
  | holds field value => cases b <;> simp [sameRoot, children]
  | and left right => cases b <;> simp [sameRoot, children]
  | or left right => cases b <;> simp [sameRoot, children]
  | not inner => cases b <;> simp [sameRoot, children]
  | range field lower upper withLower withUpper => cases b <;> simp [sameRoot, children, and_assoc]

/-- The walk over a list of pairs succeeds just when each is a pair of equal trees. -/
theorem agree_iff (pending : List (Condition × Condition)) :
    agree pending = true ↔ ∀ pair ∈ pending, pair.1 = pair.2 := by
  fun_induction agree pending with
  | case1 => simp
  | case2 a b rest same ih =>
    rw [ih, List.forall_mem_append, List.forall_mem_cons, eq_iff_roots, and_iff_right same]
  | case3 a b rest differs =>
    have apart : a ≠ b := fun equal => differs (eq_iff_roots.mp equal).1
    simp [apart]

/-- The order of the work list has no effect on the answer: it may be a queue or a stack, and the right
children may come first. -/
theorem agree_perm {first second : List (Condition × Condition)} (same : first.Perm second) :
    agree first = agree second := by
  rw [Bool.eq_iff_iff, agree_iff, agree_iff]
  exact ⟨fun all pair member => all pair (same.mem_iff.mpr member),
    fun all pair member => all pair (same.mem_iff.mp member)⟩

/-- Two conditions compare equal just when they are the same tree. -/
theorem equal_iff_same_tree (a b : Condition) : (a == b) = true ↔ a = b := by
  have walk : (a == b) = agree [(a, b)] := rfl
  rw [walk, agree_iff, List.forall_mem_singleton]

end Equality

end BoolQuery.Condition
