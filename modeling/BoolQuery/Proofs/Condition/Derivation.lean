import BoolQuery.Condition.Printer
import BoolQuery.Grammar
import BoolQuery.Proofs.Condition.Spelling

/-! What a condition is written as derives it. An operand stands between parentheses exactly where
it is too loose for its place, so that the writer's three grouping rules are one. -/
namespace BoolQuery

namespace Grammar
open Token

/-- Rules as numbers, the tightest first. -/
def Rule.looseness : Rule → Nat
  | .operand => 0
  | .negation => 1
  | .conjunction => 2
  | .disjunction => 3

variable {budget : Nat} {kinds : List Kind} {condition : Condition}

theorem derives_operand (place : Rule) (plain : Derives .operand budget kinds condition) :
    Derives place budget kinds condition := by
  cases place with
  | operand => exact plain
  | negation => exact .operand plain
  | conjunction => exact .negation (.operand plain)
  | disjunction => exact .conjunction (.negation (.operand plain))

theorem derives_loosen {tight place : Rule} (derived : Derives tight budget kinds condition)
    (fits : tight.looseness ≤ place.looseness) : Derives place budget kinds condition := by
  cases tight with
  | operand => exact derives_operand place derived
  | negation =>
    cases place with
    | operand => exact absurd fits (by decide)
    | negation => exact derived
    | conjunction => exact .negation derived
    | disjunction => exact .conjunction (.negation derived)
  | conjunction =>
    cases place with
    | operand | negation => exact absurd fits (by decide)
    | conjunction => exact derived
    | disjunction => exact .conjunction derived
  | disjunction =>
    cases place with
    | operand | negation | conjunction => exact absurd fits (by decide)
    | disjunction => exact derived

end Grammar

namespace Condition
open Token Grammar

section Places

/-- The tightest rule that derives a condition without parentheses around it. -/
def rule : Condition → Rule
  | .or _ _ => .disjunction
  | .and _ _ => .conjunction
  | .not _ => .negation
  | .holds _ _ | .range _ _ _ _ _ => .operand

/-- A condition needs a group in the place of a rule when it is looser. -/
def needsGroup (condition : Condition) (place : Rule) : Bool :=
  place.looseness < condition.rule.looseness

theorem group_left_of_or (left : Condition) :
    groupsLeftOfOr left = left.needsGroup .conjunction := by
  cases left <;> rfl

theorem group_left_of_and (left : Condition) : groupsLeftOfAnd left = left.needsGroup .negation := by
  cases left <;> rfl

theorem group_right_of_and (right : Condition) :
    groupsRightOfAnd right = right.needsGroup .conjunction := by
  cases right <;> rfl

theorem group_under_not (inner : Condition) : groupsUnderNot inner = inner.needsGroup .negation := by
  cases inner <;> rfl

theorem no_group_at_disjunction (condition : Condition) :
    condition.needsGroup .disjunction = false := by
  cases condition <;> rfl

theorem derives_grouped {budget : Nat} {condition : Condition} {kinds : List Kind}
    (written : Derives condition.rule budget kinds condition) (place : Rule) :
    Derives place (budget + groupLevel (condition.needsGroup place))
      (groupKinds (condition.needsGroup place) kinds) condition := by
  cases group : condition.needsGroup place with
  | false =>
    have fits : condition.rule.looseness ≤ place.looseness := by simpa [needsGroup] using group
    exact derives_loosen written fits
  | true =>
    have fits : condition.rule.looseness ≤ Rule.disjunction.looseness := by
      simpa [needsGroup] using no_group_at_disjunction condition
    exact derives_operand place (.group (derives_loosen written fits))

end Places

section Leaves

theorem value_kind_cases (value : String) :
    valueKind value = .word value ∨ valueKind value = .phrase value := by
  unfold valueKind
  by_cases bare : isBareValue value
  · exact Or.inl (if_pos bare)
  · exact Or.inr (if_neg bare)

theorem is_value (value : String) : IsValue (valueKind value) value := by
  rcases value_kind_cases value with word | phrase
  · rw [word]
    exact .word value
  · rw [phrase]
    exact .phrase value

theorem is_bound (bound : Option String) : IsBound (boundKind bound) bound := by
  cases bound with
  | none => exact .star
  | some value =>
    rw [boundKind]
    rcases value_kind_cases value with word | phrase
    · rw [word]
      exact .word value
    · rw [phrase]
      exact .phrase value

theorem opens_range (withLower : Bool) : Opens (openingKind withLower) withLower := by
  cases withLower with
  | true => exact .bracket
  | false => exact .brace

theorem closes_range (withUpper : Bool) : Closes (closingKind withUpper) withUpper := by
  cases withUpper with
  | true => exact .bracket
  | false => exact .brace

theorem derives_holds (field value : String) :
    Derives .operand 0 (kinds (.holds field value)) (.holds field value) := by
  unfold kinds fieldKinds
  by_cases none : field = ""
  · subst none
    exact .value (is_value value)
  · rw [if_neg none]
    exact .holds (is_value value)

theorem derives_range {field : String} (some : field ≠ "") (lower upper : Option String)
    (withLower withUpper : Bool) :
    Derives .operand 0 (kinds (.range field lower upper withLower withUpper))
      (.range field lower upper withLower withUpper) := by
  unfold kinds fieldKinds
  rw [if_neg some]
  exact .range (opens_range withLower) (is_bound lower) (is_bound upper) (closes_range withUpper)

end Leaves

-- What a condition is written as derives it, with the budget that its nesting is, as long as
-- its ranges have fields.
theorem derives_kinds {condition : Condition} (fields : condition.rangesHaveFields) :
    Derives condition.rule condition.nesting condition.kinds condition := by
  induction condition with
  | holds field value => exact derives_holds field value
  | range field lower upper withLower withUpper =>
    exact derives_range (by simpa [rangesHaveFields] using fields) lower upper withLower withUpper
  | or left right first second =>
    obtain ⟨inLeft, inRight⟩ : left.rangesHaveFields ∧ right.rangesHaveFields := by
      simpa [rangesHaveFields] using fields
    have before := derives_grouped (first inLeft) .conjunction
    have behind := derives_grouped (second inRight) .disjunction
    rw [← group_left_of_or] at before
    rw [no_group_at_disjunction] at behind
    exact .or (before.weaken (Nat.le_max_left _ _)) (behind.weaken (Nat.le_max_right _ _))
  | and left right first second =>
    obtain ⟨inLeft, inRight⟩ : left.rangesHaveFields ∧ right.rangesHaveFields := by
      simpa [rangesHaveFields] using fields
    have before := derives_grouped (first inLeft) .negation
    have behind := derives_grouped (second inRight) .conjunction
    rw [← group_left_of_and] at before
    rw [← group_right_of_and] at behind
    exact .and (before.weaken (Nat.le_max_left _ _)) (behind.weaken (Nat.le_max_right _ _))
  | not inner ih =>
    have inside := derives_grouped (ih (by simpa [rangesHaveFields] using fields)) .negation
    rw [← group_under_not] at inside
    exact .not inside

-- A limit that admits the nesting of a condition admits what it is written as.
theorem written_derives {condition : Condition} {limit : Nat} (fields : condition.rangesHaveFields)
    (fits : condition.nesting ≤ limit) :
    Derives .disjunction limit condition.kinds condition := by
  have whole := derives_grouped (derives_kinds fields) .disjunction
  rw [no_group_at_disjunction] at whole
  exact whole.weaken fits

end Condition
end BoolQuery
