import BoolQuery.Grammar
import BoolQuery.Proofs.Condition.Chain
import BoolQuery.Proofs.Parser.Runs

/-! What the grammar derives, the parser reads. A derivation by a rule takes the parser from a state
that is ready for the rule to one in which its operands are on the innermost level. -/
namespace BoolQuery.Parser
open Token Grammar

section Reading

/-- Wherever they start, tokens of these kinds lead from one state to another. -/
def Reads (limit : Nat) (before : State) (kinds : List Kind) (after : State) : Prop :=
  ∀ tokens, tokens.map Token.kind = kinds → before.walk limit tokens = .ok after

variable {limit : Nat} {before middle after : State}

theorem reads_append {first second : List Kind} (early : Reads limit before first middle)
    (late : Reads limit middle second after) : Reads limit before (first ++ second) after := by
  intro tokens spelled
  obtain ⟨front, behind, rfl, fits, others⟩ := List.map_eq_append_iff.mp spelled
  rw [walk_append (early front fits)]
  exact late behind others

theorem reads_cons {kind : Kind} {kinds : List Kind}
    (taken : ∀ offset, before.step limit ⟨kind, offset⟩ = .ok middle)
    (late : Reads limit middle kinds after) : Reads limit before (kind :: kinds) after := by
  intro tokens spelled
  obtain ⟨⟨_, offset⟩, others, rfl, rfl, fits⟩ := List.map_eq_cons_iff.mp spelled
  rw [walk_cons_ok (taken offset)]
  exact late others fits

theorem reads_one {kind : Kind} (taken : ∀ offset, before.step limit ⟨kind, offset⟩ = .ok after) :
    Reads limit before [kind] after := by
  refine reads_cons taken fun tokens spelled => ?_
  rw [List.map_eq_nil_iff.mp spelled]
  rfl

theorem derives_head {rule : Rule} {budget : Nat} {kind : Kind} {kinds : List Kind}
    {condition : Condition} (derived : Derives rule budget (kind :: kinds) condition) :
    startsOperand kind := by
  generalize spelled : kind :: kinds = whole at derived
  induction derived generalizing kinds with
  | value isValue =>
    cases spelled
    cases isValue <;> rfl
  | holds | range | group | not =>
    cases spelled
    rfl
  | operand _ ih | negation _ ih | conjunction _ ih => exact ih spelled
  | @and _ before _ _ _ first _ ih _ | @or _ before _ _ _ first _ ih _
  | @beside _ before _ _ _ first _ ih _ =>
    cases before with
    | nil => exact absurd rfl first.kinds_ne_nil
    | cons head others =>
      cases spelled
      exact ih rfl

-- What starts with an operand is read as if OR stood in front of it.
theorem reads_beside {operand : Condition} {kinds : List Kind}
    (settled : before.settle.awaiting = .operator operand) (some : kinds ≠ [])
    (starts : ∀ kind ∈ kinds.head?, startsOperand kind)
    (reads : Reads limit (before.settle.alternative operand) kinds after) :
    Reads limit before kinds after := by
  intro tokens spelled
  cases tokens with
  | nil => exact absurd spelled.symm some
  | cons token rest =>
    have first : startsOperand token.kind := starts token.kind (by simp [← spelled])
    rw [← reads (token :: rest) spelled]
    simp only [State.walk, step_beside settled first]

end Reading

section Rules

/-- The state can begin with what a rule derives: nothing tighter waits for an operand. -/
def Ready : Rule → State → Prop
  | .operand, state | .negation, state => state.awaiting = .operand
  | .conjunction, state => state.awaiting = .operand ∧ state.level.negations = 0
  | .disjunction, state =>
    state.awaiting = .operand ∧ state.level.negations = 0 ∧ state.level.conjuncts = []

/-- The state behind what a rule derives has taken the operands of the condition. -/
def Taken (start after : State) (condition : Condition) : Rule → Prop
  | .operand | .negation => after = start.complete condition
  | .conjunction => ∃ conjuncts last, Condition.joinOnto .and last conjuncts = condition ∧
      after = { start with
        level := { start.level with conjuncts := conjuncts ++ start.level.conjuncts }
        awaiting := .operator last }
  | .disjunction => ∃ alternatives conjuncts last,
      Condition.joinOnto .or (Condition.joinOnto .and last conjuncts) alternatives = condition ∧
      after = { start with
        level := ⟨alternatives ++ start.level.alternatives, conjuncts, 0⟩
        awaiting := .operator last }

theorem complete_negating (start : State) (inner : Condition) :
    start.negating.complete inner = start.complete (.not inner) := by
  simp [State.negating, State.complete, State.leaveNegations, State.negate, Condition.negated]

theorem complete_ready {start : State} (free : start.level.negations = 0) (operand : Condition) :
    start.complete operand = { start with awaiting := .operator operand } := by
  obtain ⟨⟨alternatives, conjuncts, negations⟩, outer, depth, awaiting⟩ := start
  cases free
  rfl

-- Behind its group the operands on the level of the group are one operand.
theorem regrouped_nested (start : State) (alternatives conjuncts : List Condition)
    (last : Condition) :
    State.regrouped
        { start.nested with
          level := ⟨alternatives ++ start.nested.level.alternatives, conjuncts, 0⟩
          awaiting := .operator last } last start.level start.outer =
      start.complete
        (Condition.joinOnto .or (Condition.joinOnto .and last conjuncts) alternatives) := by
  simp [State.regrouped, State.nested, Level.condition, Level.conjunction, State.complete,
    State.leaveNegations, State.negate]

-- Behind a first operand of OR the others are read as from a level that lists it.
theorem taken_alternative {start settled : State} {left : Condition} (ready : Ready .disjunction start)
    (first : Taken start settled left .conjunction) :
    ∃ last, settled.awaiting = .operator last ∧ Ready .disjunction (settled.alternative last) ∧
      (settled.alternative last).depth = start.depth ∧
      ∀ after right, Taken (settled.alternative last) after right .disjunction →
        Taken start after (.or left right) .disjunction := by
  obtain ⟨-, -, alone⟩ := ready
  obtain ⟨conjuncts, last, rfl, rfl⟩ := first
  refine ⟨last, rfl, ⟨rfl, rfl, rfl⟩, rfl, ?_⟩
  rintro after right ⟨alternatives, others, final, rfl, rfl⟩
  refine ⟨alternatives ++ [Condition.joinOnto .and last conjuncts], others, final,
    Condition.joinOnto_concat .or _ _ alternatives, ?_⟩
  simp [State.alternative, Level.conjunction, alone]

theorem reads_value {limit : Nat} {start : State} {kind : Kind} {value : String}
    (awaits : start.awaiting = .operand) (isValue : IsValue kind value) :
    ∃ after, Reads limit start [kind] after ∧ after.settle = start.complete (.term value) := by
  cases isValue with
  | word =>
    refine ⟨{ start with awaiting := .colon value }, reads_one fun offset => ?_, rfl⟩
    rw [step_operand awaits]
    rfl
  | phrase =>
    refine ⟨start.complete (.term value), reads_one fun offset => ?_, rfl⟩
    rw [step_operand awaits]
    rfl
  | star =>
    refine ⟨start.complete (.term "*"), reads_one fun offset => ?_, rfl⟩
    rw [step_operand awaits]
    rfl

theorem reads_scoped {limit : Nat} {start after : State} {field : String} {kinds : List Kind}
    (awaits : start.awaiting = .operand)
    (reads : Reads limit { start with awaiting := .fieldValue field } kinds after) :
    Reads limit start (.word field :: .colon :: kinds) after := by
  have named : Reads limit { start with awaiting := .colon field } (.colon :: kinds) after :=
    reads_cons (fun offset => rfl) reads
  refine reads_cons (fun offset => ?_) named
  rw [step_operand awaits]
  rfl

theorem reads_range {limit : Nat} {start : State} {field : String}
    {opening low high closing : Kind} {lower upper : Option String} {withLower withUpper : Bool}
    (opens : Opens opening withLower) (isLower : IsBound low lower) (isUpper : IsBound high upper)
    (closes : Closes closing withUpper) :
    Reads limit { start with awaiting := .fieldValue field } [opening, low, .to, high, closing]
      (start.complete (.range field lower upper withLower withUpper)) := by
  -- One token after the other: what differs between them is only what is remembered.
  have opened : Reads limit { start with awaiting := .fieldValue field } [opening]
      { start with awaiting := .lowerBound field withLower } := by
    cases opens <;> exact reads_one fun offset => rfl
  have first : Reads limit { start with awaiting := .lowerBound field withLower } [low]
      { start with awaiting := .rangeTo field withLower lower } := by
    cases isLower <;> exact reads_one fun offset => rfl
  have between : Reads limit { start with awaiting := .rangeTo field withLower lower } [.to]
      { start with awaiting := .upperBound field withLower lower } := reads_one fun offset => rfl
  have second : Reads limit { start with awaiting := .upperBound field withLower lower } [high]
      { start with awaiting := .rangeClose field withLower lower upper } := by
    cases isUpper <;> exact reads_one fun offset => rfl
  have closed : Reads limit { start with awaiting := .rangeClose field withLower lower upper }
      [closing] (start.complete (.range field lower upper withLower withUpper)) := by
    cases closes <;> exact reads_one fun offset => rfl
  exact reads_append opened (reads_append first (reads_append between (reads_append second closed)))

-- From where an operand is awaited: what is read inside of a group, and then its parenthesis.
theorem reads_group {limit budget : Nat} {start : State} {kinds : List Kind} {inner : Condition}
    (awaits : start.awaiting = .operand) (room : start.depth + (budget + 1) ≤ limit)
    (inside : ∀ {onward : State}, Ready .disjunction onward → onward.depth + budget ≤ limit →
      ∃ after, Reads limit onward kinds after ∧ Taken onward after.settle inner .disjunction) :
    Reads limit start (.openParen :: (kinds ++ [.closeParen])) (start.complete inner) := by
  have nested : Ready .disjunction start.nested := ⟨rfl, rfl, rfl⟩
  have fits : start.nested.depth + budget ≤ limit := by
    simp only [State.nested]
    omega
  obtain ⟨last, reads, alternatives, conjuncts, operand, rfl, settled⟩ := inside nested fits
  have ends : last.settle.awaiting = .operator operand := by rw [settled]
  have around : last.outer = start.level :: start.outer := by
    rw [← settle_outer, settled]
    rfl
  have opens (offset : Nat) : start.step limit ⟨.openParen, offset⟩ = .ok start.nested := by
    rw [step_operand awaits, stepOperand_openParen (by omega) rfl]
  have closes (offset : Nat) : last.step limit ⟨.closeParen, offset⟩ =
      .ok (start.complete
        (Condition.joinOnto .or (Condition.joinOnto .and operand conjuncts) alternatives)) := by
    rw [step_close ends around rfl, settled, regrouped_nested]
  exact reads_cons opens (reads_append reads (reads_one closes))

theorem reads_not {limit budget : Nat} {start : State} {kinds : List Kind} {inner : Condition}
    (awaits : start.awaiting = .operand) (room : start.depth + (budget + 1) ≤ limit)
    (inside : ∀ {onward : State}, Ready .negation onward → onward.depth + budget ≤ limit →
      ∃ after, Reads limit onward kinds after ∧ Taken onward after.settle inner .negation) :
    ∃ after, Reads limit start (.not :: kinds) after ∧
      Taken start after.settle (.not inner) .negation := by
  have negating : Ready .negation start.negating := rfl
  have fits : start.negating.depth + budget ≤ limit := by
    simp only [State.negating]
    omega
  obtain ⟨after, reads, settled⟩ := inside negating fits
  rw [Taken, complete_negating] at settled
  have enters (offset : Nat) : start.step limit ⟨.not, offset⟩ = .ok start.negating := by
    rw [step_operand awaits, stepOperand_not (by omega) rfl]
  exact ⟨after, reads_cons enters reads, settled⟩

-- Behind a first operand of AND the others are read as from a level that lists it.
theorem taken_conjunct {start settled : State} {left : Condition} (ready : Ready .conjunction start)
    (first : Taken start settled left .negation) :
    settled.awaiting = .operator left ∧ Ready .conjunction (settled.conjoined left) ∧
      (settled.conjoined left).depth = start.depth ∧
      ∀ after right, Taken (settled.conjoined left) after right .conjunction →
        Taken start after (.and left right) .conjunction := by
  obtain ⟨awaits, free⟩ := ready
  rw [Taken, complete_ready free] at first
  subst first
  refine ⟨rfl, ⟨rfl, free⟩, rfl, ?_⟩
  rintro after right ⟨conjuncts, last, rfl, rfl⟩
  refine ⟨conjuncts ++ [left], last, Condition.joinOnto_concat .and last left conjuncts, ?_⟩
  simp [State.conjoined]

theorem derives_reads {rule : Rule} {budget : Nat} {kinds : List Kind} {condition : Condition}
    (derived : Derives rule budget kinds condition) {limit : Nat} {start : State}
    (ready : Ready rule start) (room : start.depth + budget ≤ limit) :
    ∃ after, Reads limit start kinds after ∧ Taken start after.settle condition rule := by
  -- Induction on the derivation, for every state that is ready for its rule.
  induction derived generalizing start with
  | value isValue => exact reads_value ready isValue
  | @holds _ field _ value isValue =>
    refine ⟨start.complete (.holds field value), reads_scoped ready ?_, rfl⟩
    cases isValue <;> exact reads_one fun offset => rfl
  | range opens isLower isUpper closes =>
    exact ⟨_, reads_scoped ready (reads_range opens isLower isUpper closes), rfl⟩
  | group _ ih => exact ⟨_, reads_group ready room ih, rfl⟩
  | operand _ ih => exact ih ready room
  | not _ ih => exact reads_not ready room ih
  | negation _ ih =>
    obtain ⟨awaits, free⟩ := ready
    obtain ⟨after, reads, settled⟩ := ih awaits room
    exact ⟨after, reads, [], _, rfl, by rw [settled, complete_ready free]; rfl⟩
  | and _ _ first others =>
    obtain ⟨middle, early, settled⟩ := first ready.1 room
    obtain ⟨behind, again, depth, taken⟩ := taken_conjunct ready settled
    obtain ⟨after, late, reached⟩ := others again (by rw [depth]; exact room)
    exact ⟨after, reads_append early (reads_cons (fun offset => step_and behind rfl) late),
      taken _ _ reached⟩
  | conjunction _ ih =>
    obtain ⟨awaits, free, alone⟩ := ready
    obtain ⟨after, reads, conjuncts, last, rfl, settled⟩ := ih ⟨awaits, free⟩ room
    refine ⟨after, reads, [], conjuncts, last, rfl, ?_⟩
    rw [settled]
    simp [alone, free]
  | or _ _ first others =>
    obtain ⟨middle, early, settled⟩ := first ⟨ready.1, ready.2.1⟩ room
    obtain ⟨last, behind, again, depth, taken⟩ := taken_alternative ready settled
    obtain ⟨after, late, reached⟩ := others again (by rw [depth]; exact room)
    exact ⟨after, reads_append early (reads_cons (fun offset => step_or behind rfl) late),
      taken _ _ reached⟩
  | @beside _ _ kinds _ _ _ rest first others =>
    obtain ⟨middle, early, settled⟩ := first ⟨ready.1, ready.2.1⟩ room
    obtain ⟨last, behind, again, depth, taken⟩ := taken_alternative ready settled
    obtain ⟨after, late, reached⟩ := others again (by rw [depth]; exact room)
    -- Nothing stands between the operands, so the second has to announce itself.
    have starts : ∀ kind ∈ kinds.head?, startsOperand kind := by
      cases kinds with
      | nil => simp
      | cons head tail => simpa using derives_head rest
    exact ⟨after, reads_append early (reads_beside behind rest.kinds_ne_nil starts late),
      taken _ _ reached⟩

end Rules

end BoolQuery.Parser
