import BoolQuery.Proofs.Condition.Derivation

/-! A condition is written with the fewest groups and the least nesting: whatever derives it has at
least as many opening parentheses, and spends at least as much of the budget. -/
namespace BoolQuery.Condition
open Token Grammar

section Groups

/-- The groups of a written condition. -/
def groups : Condition → Nat
  | .holds _ _ | .range _ _ _ _ _ => 0
  | .or left right => left.groups + groupLevel (groupsLeftOfOr left) + right.groups
  | .and left right =>
    left.groups + groupLevel (groupsLeftOfAnd left) +
      (right.groups + groupLevel (groupsRightOfAnd right))
  | .not inner => inner.groups + groupLevel (groupsUnderNot inner)

/-- No operand of the tree needs a group. -/
def ungrouped : Condition → Bool
  | .holds _ _ | .range _ _ _ _ _ => true
  | .or left right => !left.isOr && left.ungrouped && right.ungrouped
  | .and left right =>
    !left.isOr && !left.isAnd && !right.isOr && left.ungrouped && right.ungrouped
  | .not inner => !inner.isOr && !inner.isAnd && inner.ungrouped

theorem group_level_zero (group : Bool) : groupLevel group = 0 ↔ group = false := by
  cases group <;> simp [groupLevel]

theorem group_level_le_one (group : Bool) : groupLevel group ≤ 1 := by
  cases group <;> simp [groupLevel]

theorem groups_zero_iff (condition : Condition) : condition.groups = 0 ↔ condition.ungrouped := by
  induction condition with
  | holds field value => simp [groups, ungrouped]
  | range field lower upper withLower withUpper => simp [groups, ungrouped]
  | or left right first second =>
    simp [groups, ungrouped, Nat.add_eq_zero_iff, group_level_zero, groupsLeftOfOr, first, second,
      and_comm, and_assoc]
  | and left right first second =>
    simp [groups, ungrouped, Nat.add_eq_zero_iff, group_level_zero, groupsLeftOfAnd,
      groupsRightOfAnd, first, second, and_comm, and_assoc, and_left_comm]
  | not inner ih =>
    simp [groups, ungrouped, Nat.add_eq_zero_iff, group_level_zero, groupsUnderNot, ih, and_comm,
      and_assoc]

/-- The opening parentheses among some kinds. -/
def openings (kinds : List Kind) : Nat := kinds.count .openParen

theorem openings_append (first second : List Kind) :
    openings (first ++ second) = openings first + openings second := List.count_append

theorem openings_cons {kind : Kind} (other : kind ≠ .openParen) (kinds : List Kind) :
    openings (kind :: kinds) = openings kinds :=
  List.count_cons_of_ne other

theorem openings_group (group : Bool) (kinds : List Kind) :
    openings (groupKinds group kinds) = openings kinds + groupLevel group := by
  cases group with
  | false => simp [groupKinds, groupLevel]
  | true => simp [groupKinds, groupLevel, openings]

theorem openings_value (value : String) : openings [valueKind value] = 0 := by
  rcases value_kind_cases value with word | phrase
  · rw [word]
    rfl
  · rw [phrase]
    rfl

theorem openings_bound (bound : Option String) : openings [boundKind bound] = 0 := by
  cases bound with
  | none => rfl
  | some value => exact openings_value value

theorem openings_field (field : String) : openings (fieldKinds field) = 0 := by
  unfold fieldKinds
  by_cases none : field = ""
  · rw [if_pos none]
    rfl
  · rw [if_neg none]
    rfl

/-- Each group of a written condition is one opening parenthesis, and there are no others. -/
theorem openings_kinds (condition : Condition) : openings condition.kinds = condition.groups := by
  induction condition with
  | holds field value =>
    rw [kinds, openings_append, openings_field, openings_value]
    rfl
  | range field lower upper withLower withUpper =>
    have opening : openings [openingKind withLower] = 0 := by cases withLower <;> rfl
    have closing : openings [closingKind withUpper] = 0 := by cases withUpper <;> rfl
    have split : kinds (.range field lower upper withLower withUpper) =
        fieldKinds field ++ ([openingKind withLower] ++ ([boundKind lower] ++ ([.to] ++
          ([boundKind upper] ++ [closingKind withUpper])))) := rfl
    have middle : openings [.to] = 0 := rfl
    simp only [split, openings_append, openings_field, opening, openings_bound, middle, closing]
    rfl
  | or left right first second =>
    rw [kinds, openings_append, openings_group, openings_cons (by simp), first, second]
    rfl
  | and left right first second =>
    rw [kinds, openings_append, openings_group, openings_cons (by simp), openings_group, first,
      second]
    rfl
  | not inner ih =>
    rw [kinds, openings_cons (by simp), openings_group, ih]
    rfl

end Groups

section Derived

variable {place : Rule} {budget : Nat} {spelling : List Kind} {condition : Condition}

theorem group_level_loosen (condition : Condition) (tight loose : Rule)
    (fits : tight.looseness ≤ loose.looseness) :
    groupLevel (condition.needsGroup loose) ≤ groupLevel (condition.needsGroup tight) := by
  by_cases group : condition.needsGroup loose
  · have tighter : condition.needsGroup tight := by
      simp only [needsGroup, decide_eq_true_eq] at group ⊢
      omega
    exact Nat.le_of_eq (by rw [group, tighter])
  · simp [groupLevel, group]

/-- However a condition is derived in a place: the nesting of what it is written as there fits the
budget, and its groups are no more than the opening parentheses read. -/
theorem derives_needs (derived : Derives place budget spelling condition) :
    condition.nesting + groupLevel (condition.needsGroup place) ≤ budget ∧
      condition.groups + groupLevel (condition.needsGroup place) ≤ openings spelling := by
  induction derived with
  | value isValue => exact ⟨Nat.zero_le _, Nat.zero_le _⟩
  | holds isValue => exact ⟨Nat.zero_le _, Nat.zero_le _⟩
  | range opens isLower isUpper closes => exact ⟨Nat.zero_le _, Nat.zero_le _⟩
  | @group budget spelling inner inside ih =>
    -- One pair of parentheses is all that a condition can need.
    have level := group_level_le_one (inner.needsGroup .operand)
    have count : openings (.openParen :: (spelling ++ [.closeParen])) = openings spelling + 1 := by
      simp [openings]
    rw [no_group_at_disjunction, groupLevel] at ih
    rw [count]
    constructor <;> omega
  | @operand budget spelling condition plain ih =>
    -- In a looser place a condition needs a group no more often.
    have level := group_level_loosen condition .operand .negation (by decide)
    exact ⟨by omega, by omega⟩
  | @negation budget spelling condition plain ih =>
    have level := group_level_loosen condition .negation .conjunction (by decide)
    exact ⟨by omega, by omega⟩
  | @conjunction budget spelling condition plain ih =>
    have level := group_level_loosen condition .conjunction .disjunction (by decide)
    exact ⟨by omega, by omega⟩
  | @not budget spelling inner inside ih =>
    rw [← group_under_not] at ih
    rw [openings_cons (by simp)]
    exact ⟨Nat.succ_le_succ ih.1, ih.2⟩
  | @and budget front rest left right first others before behind =>
    rw [← group_left_of_and] at before
    rw [← group_right_of_and] at behind
    rw [openings_append, openings_cons (by simp)]
    have fits := Nat.max_le.mpr ⟨before.1, behind.1⟩
    have parentheses := Nat.add_le_add before.2 behind.2
    exact ⟨fits, parentheses⟩
  | @or budget front rest left right first others before behind =>
    rw [← group_left_of_or] at before
    rw [no_group_at_disjunction] at behind
    rw [openings_append, openings_cons (by simp)]
    have fits := Nat.max_le.mpr ⟨before.1, behind.1⟩
    have parentheses := Nat.add_le_add before.2 behind.2
    exact ⟨fits, parentheses⟩
  | @beside budget front rest left right first others before behind =>
    rw [← group_left_of_or] at before
    rw [no_group_at_disjunction] at behind
    rw [openings_append]
    have fits := Nat.max_le.mpr ⟨before.1, behind.1⟩
    have parentheses := Nat.add_le_add before.2 behind.2
    exact ⟨fits, parentheses⟩

end Derived

end BoolQuery.Condition
