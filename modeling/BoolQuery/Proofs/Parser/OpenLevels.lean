import BoolQuery.Grammar
import BoolQuery.Proofs.Parser.Runs

/-! What the parser has read, the grammar derives. The tokens in front of a state belong to its open
levels, and each level promises a derivation once an operand follows. Every token keeps this
account, so a condition at the end has a derivation behind it. -/
namespace BoolQuery.Parser
open Token Grammar

section Levels

variable {budget : Nat} {level : Level} {early late own : List Kind} {operand : Condition}

/-- A level has read `early` for its alternatives and `late` for its conjuncts: whatever goes on
with the chains is derived together with them. -/
structure Level.Covers (budget : Nat) (level : Level) (early late : List Kind) : Prop where
  alternatives : ∀ rest condition, Derives .disjunction budget rest condition →
    Derives .disjunction budget (early ++ rest)
      (Condition.joinOnto .or condition level.alternatives)
  conjuncts : ∀ rest condition, Derives .conjunction budget rest condition →
    Derives .conjunction budget (late ++ rest)
      (Condition.joinOnto .and condition level.conjuncts)

theorem covers_empty (budget : Nat) : Level.Covers budget {} [] [] where
  alternatives _ _ derived := derived
  conjuncts _ _ derived := derived

theorem covers_negations (covers : level.Covers budget early late) (negations : Nat) :
    Level.Covers budget { level with negations } early late where
  alternatives := covers.alternatives
  conjuncts := covers.conjuncts

theorem covers_conjunct (covers : level.Covers budget early late)
    (derived : Derives .negation budget own operand) :
    Level.Covers budget { level with conjuncts := operand :: level.conjuncts } early
      (late ++ (own ++ [.and])) where
  alternatives := covers.alternatives
  conjuncts rest condition others := by
    simpa [Condition.joinOnto] using covers.conjuncts _ _ (.and derived others)

theorem conjunction_derives (covers : level.Covers budget early late)
    (derived : Derives .negation budget own operand) :
    Derives .conjunction budget (late ++ own) (level.conjunction operand) :=
  covers.conjuncts own operand (.negation derived)

theorem condition_derives (covers : level.Covers budget early late)
    (derived : Derives .negation budget own operand) :
    Derives .disjunction budget (early ++ (late ++ own)) (level.condition operand) :=
  covers.alternatives _ _ (.conjunction (conjunction_derives covers derived))

theorem covers_or (covers : level.Covers budget early late)
    (derived : Derives .negation budget own operand) :
    Level.Covers budget { alternatives := level.conjunction operand :: level.alternatives }
      (early ++ (late ++ (own ++ [.or]))) [] where
  alternatives rest condition others := by
    have whole := covers.alternatives _ _ (.or (conjunction_derives covers derived) others)
    simpa [Condition.joinOnto] using whole
  conjuncts _ _ others := others

theorem covers_beside (covers : level.Covers budget early late)
    (derived : Derives .negation budget own operand) :
    Level.Covers budget { alternatives := level.conjunction operand :: level.alternatives }
      (early ++ (late ++ own)) [] where
  alternatives rest condition others := by
    have whole := covers.alternatives _ _ (.beside (conjunction_derives covers derived) others)
    simpa [Condition.joinOnto] using whole
  conjuncts _ _ others := others

theorem negated_derives (negations : Nat) (derived : Derives .negation budget own operand) :
    Derives .negation (budget + negations) (List.replicate negations .not ++ own)
      (operand.negated negations) := by
  induction negations generalizing budget own operand with
  | zero => simpa [Condition.negated] using derived
  | succ negations ih =>
    have size : budget + (negations + 1) = budget + 1 + negations := by omega
    rw [size, List.replicate_succ', List.append_assoc]
    exact ih (.not derived)

end Levels

section Accounts

/-- Tokens up to the innermost open parenthesis, and the budget that is left behind it. -/
inductive Around (limit : Nat) : List Level → List Kind → Nat → Prop
  | outermost : Around limit [] [] limit
  | group {level : Level} {outer : List Level} {before early late : List Kind} {budget : Nat}
    (outside : Around limit outer before (budget + level.negations + 1))
    (covers : level.Covers (budget + level.negations + 1) early late) :
    Around limit (level :: outer)
      (before ++ (early ++ (late ++ (List.replicate level.negations .not ++ [.openParen])))) budget

/-- Tokens up to where the innermost level has an operand. Of the limit, the budget of this level is
left, and its NOTs are taken from that. -/
structure State.Front (limit : Nat) (state : State) (budget : Nat) (before early late : List Kind) :
    Prop where
  around : Around limit state.outer before budget
  covers : state.level.Covers budget early late
  room : state.level.negations ≤ budget
  depth : state.depth + budget = limit + state.level.negations

/-- The tokens of an operand as far as they are read. -/
def Awaiting.Follows (budget negations : Nat) (own : List Kind) : Awaiting → Prop
  | .operand => own = []
  | .colon word => own = [.word word]
  | .fieldValue field => own = [.word field, .colon]
  | .lowerBound field withLower => ∃ opening, Opens opening withLower ∧
      own = [.word field, .colon, opening]
  | .rangeTo field withLower lower => ∃ opening low, Opens opening withLower ∧ IsBound low lower ∧
      own = [.word field, .colon, opening, low]
  | .upperBound field withLower lower => ∃ opening low, Opens opening withLower ∧
      IsBound low lower ∧ own = [.word field, .colon, opening, low, .to]
  | .rangeClose field withLower lower upper => ∃ opening low high, Opens opening withLower ∧
      IsBound low lower ∧ IsBound high upper ∧ own = [.word field, .colon, opening, low, .to, high]
  | .operator whole => negations = 0 ∧ Derives .negation budget own whole

/-- The state accounts for the tokens that led to it. -/
def State.Accounts (limit : Nat) (state : State) (kinds : List Kind) : Prop :=
  ∃ budget before early late own,
    kinds = before ++ (early ++ (late ++ (List.replicate state.level.negations .not ++ own))) ∧
    state.Front limit budget before early late ∧
    state.awaiting.Follows budget state.level.negations own

variable {limit budget : Nat} {state next : State} {kinds before early late own : List Kind}
  {operand : Condition} {token : Token}

theorem accounts_start (limit : Nat) : State.Accounts limit {} [] :=
  ⟨limit, [], [], [], [], rfl, ⟨.outermost, covers_empty limit, Nat.zero_le limit, by simp⟩, rfl⟩

theorem around_budget {outer : List Level} (around : Around limit outer before budget) :
    budget ≤ limit := by
  induction around with
  | outermost => exact Nat.le_refl limit
  | group _ _ ih => omega

-- An operand takes the NOTs in front of it.
theorem accounts_complete (front : state.Front limit budget before early late)
    (derived : Derives .operand (budget - state.level.negations) own operand) :
    (state.complete operand).Accounts limit
      (before ++ (early ++ (late ++ (List.replicate state.level.negations .not ++ own)))) := by
  have negated := negated_derives state.level.negations (.operand derived)
  rw [Nat.sub_add_cancel front.room] at negated
  have depth : state.depth - state.level.negations + budget = limit := by
    have := front.depth
    have := around_budget front.around
    omega
  exact ⟨budget, before, early, late, _, rfl,
    ⟨front.around, covers_negations front.covers 0, Nat.zero_le budget, depth⟩, rfl, negated⟩

-- Settling takes a bare word as a value, which changes nothing in the account.
theorem accounts_settle (accounts : state.Accounts limit kinds) :
    state.settle.Accounts limit kinds := by
  cases awaits : state.awaiting with
  | colon word =>
    obtain ⟨budget, before, early, late, own, rfl, front, follows⟩ := accounts
    rw [awaits, Awaiting.Follows] at follows
    rw [settle_colon awaits, follows]
    exact accounts_complete front (.value (.word word))
  | _ => simpa only [State.settle, awaits] using accounts

-- Behind an operand no NOT waits.
theorem accounts_operator (accounts : state.Accounts limit kinds)
    (settled : state.awaiting = .operator operand) :
    ∃ budget before early late own, kinds = before ++ (early ++ (late ++ own)) ∧
      state.Front limit budget before early late ∧ state.level.negations = 0 ∧
      Derives .negation budget own operand := by
  obtain ⟨budget, before, early, late, own, rfl, front, follows⟩ := accounts
  rw [settled] at follows
  obtain ⟨free, derived⟩ := follows
  exact ⟨budget, before, early, late, own, by simp [free], front, free, derived⟩

theorem accounts_negating (accounts : state.Accounts limit kinds)
    (awaits : state.awaiting = .operand) (room : state.depth + 1 ≤ limit) :
    state.negating.Accounts limit (kinds ++ [.not]) := by
  obtain ⟨budget, before, early, late, own, rfl, front, follows⟩ := accounts
  rw [awaits, Awaiting.Follows] at follows
  have := front.depth
  refine ⟨budget, before, early, late, [], ?_, ⟨front.around,
    covers_negations front.covers (state.level.negations + 1), ?_, ?_⟩, rfl⟩
  · simp [State.negating, follows, List.replicate_succ']
  · simp only [State.negating]
    omega
  · simp only [State.negating]
    omega

theorem accounts_nested (accounts : state.Accounts limit kinds)
    (awaits : state.awaiting = .operand) (room : state.depth + 1 ≤ limit) :
    state.nested.Accounts limit (kinds ++ [.openParen]) := by
  obtain ⟨budget, before, early, late, own, rfl, front, follows⟩ := accounts
  rw [awaits, Awaiting.Follows] at follows
  have := front.depth
  -- The waiting NOTs and the group itself are taken from the budget.
  obtain ⟨inner, rfl⟩ : ∃ inner, budget = inner + state.level.negations + 1 :=
    ⟨budget - state.level.negations - 1, by omega⟩
  refine ⟨inner, _, [], [], [], ?_, ⟨.group front.around front.covers, covers_empty inner,
    Nat.zero_le inner, ?_⟩, rfl⟩
  · simp [State.nested, follows]
  · simp only [State.nested]
    omega

theorem accounts_conjoined (accounts : state.Accounts limit kinds)
    (settled : state.awaiting = .operator operand) :
    (state.conjoined operand).Accounts limit (kinds ++ [.and]) := by
  obtain ⟨budget, before, early, late, own, rfl, front, free, derived⟩ :=
    accounts_operator accounts settled
  refine ⟨budget, before, early, late ++ (own ++ [Kind.and]), [], ?_,
    ⟨front.around, covers_conjunct front.covers derived, front.room, front.depth⟩, rfl⟩
  simp [State.conjoined, free]

theorem accounts_or (accounts : state.Accounts limit kinds)
    (settled : state.awaiting = .operator operand) :
    (state.alternative operand).Accounts limit (kinds ++ [.or]) := by
  obtain ⟨budget, before, early, late, own, rfl, front, free, derived⟩ :=
    accounts_operator accounts settled
  refine ⟨budget, before, early ++ (late ++ (own ++ [Kind.or])), [], [], ?_,
    ⟨front.around, covers_or front.covers derived, Nat.zero_le budget, ?_⟩, rfl⟩
  · simp [State.alternative]
  · simpa [State.alternative, free] using front.depth

theorem accounts_beside (accounts : state.Accounts limit kinds)
    (settled : state.awaiting = .operator operand) :
    (state.alternative operand).Accounts limit kinds := by
  obtain ⟨budget, before, early, late, own, rfl, front, free, derived⟩ :=
    accounts_operator accounts settled
  refine ⟨budget, before, early ++ (late ++ own), [], [], ?_,
    ⟨front.around, covers_beside front.covers derived, Nat.zero_le budget, ?_⟩, rfl⟩
  · simp [State.alternative]
  · simpa [State.alternative, free] using front.depth

-- A closed group is an operand of the level around it.
theorem accounts_regrouped {level : Level} {outer : List Level}
    (accounts : state.Accounts limit kinds) (settled : state.awaiting = .operator operand)
    (inside : state.outer = level :: outer) :
    (state.regrouped operand level outer).Accounts limit (kinds ++ [.closeParen]) := by
  obtain ⟨budget, before, early, late, own, rfl, front, free, derived⟩ :=
    accounts_operator accounts settled
  have around := front.around
  rw [inside] at around
  cases around with
  | @group _ _ further first second _ outside covers =>
    have group := Derives.group (condition_derives front.covers derived)
    have room : level.negations ≤ budget + level.negations + 1 := by omega
    have left : budget + level.negations + 1 - level.negations = budget + 1 := by omega
    have depth : state.depth - 1 + (budget + level.negations + 1) = limit + level.negations := by
      have := front.depth
      have := around_budget outside
      omega
    rw [← left] at group
    have whole : State.Front limit { state with level, outer, depth := state.depth - 1 }
        (budget + level.negations + 1) further first second := ⟨outside, covers, room, depth⟩
    simpa [State.regrouped] using accounts_complete whole group

end Accounts

section Terms

theorem isValue_of_value {kind : Kind} {value : String} (stands : value? kind = some value) :
    IsValue kind value := by
  cases kind with
  | word =>
    cases stands
    exact .word _
  | phrase =>
    cases stands
    exact .phrase _
  | star =>
    cases stands
    exact .star
  | _ => cases stands

theorem isBound_of_bound {kind : Kind} {bound : Option String} (stands : bound? kind = some bound) :
    IsBound kind bound := by
  cases kind with
  | word =>
    cases stands
    exact .word _
  | phrase =>
    cases stands
    exact .phrase _
  | star =>
    cases stands
    exact .star
  | _ => cases stands

end Terms

section Steps

variable {limit : Nat} {state next : State} {kinds : List Kind} {operand : Condition}
  {token : Token}

-- A token that an operand goes on with is added to its account.
theorem accounts_awaiting {before awaiting : Awaiting} {kind : Kind}
    (accounts : state.Accounts limit kinds) (awaits : state.awaiting = before)
    (follows : ∀ budget negations own, before.Follows budget negations own →
      awaiting.Follows budget negations (own ++ [kind])) :
    State.Accounts limit { state with awaiting } (kinds ++ [kind]) := by
  obtain ⟨budget, _, early, late, own, rfl, front, earlier⟩ := accounts
  rw [awaits] at earlier
  exact ⟨budget, _, early, late, own ++ [kind], by simp,
    ⟨front.around, front.covers, front.room, front.depth⟩, follows _ _ _ earlier⟩

theorem accounts_operand {before : Awaiting} {kind : Kind} (accounts : state.Accounts limit kinds)
    (awaits : state.awaiting = before)
    (derives : ∀ budget negations own, before.Follows budget negations own →
      Derives .operand (budget - negations) (own ++ [kind]) operand) :
    (state.complete operand).Accounts limit (kinds ++ [kind]) := by
  obtain ⟨budget, _, early, late, own, rfl, front, earlier⟩ := accounts
  rw [awaits] at earlier
  simpa using accounts_complete front (derives _ _ _ earlier)

theorem accounts_stepOperand (accounts : state.Accounts limit kinds)
    (awaits : state.awaiting = .operand) (taken : state.stepOperand limit token = .ok next) :
    next.Accounts limit (kinds ++ [token.kind]) := by
  rcases stepOperand_cases taken with
    ⟨text, kind, rfl⟩ | ⟨text, kind, rfl⟩ | ⟨kind, room, rfl⟩ | ⟨kind, room, rfl⟩
  · refine accounts_awaiting accounts awaits ?_
    rintro budget negations own rfl
    rw [kind]
    rfl
  · refine accounts_operand accounts awaits ?_
    rintro budget negations own rfl
    rcases kind with phrase | ⟨star, rfl⟩
    · rw [phrase]
      exact .value (.phrase text)
    · rw [star]
      exact .value .star
  · rw [kind]
    exact accounts_negating accounts awaits room
  · rw [kind]
    exact accounts_nested accounts awaits room

theorem accounts_stepOperator (accounts : state.Accounts limit kinds)
    (settled : state.awaiting = .operator operand)
    (taken : state.stepOperator limit operand token = .ok next) :
    next.Accounts limit (kinds ++ [token.kind]) := by
  rcases stepOperator_cases taken with
    ⟨kind, rfl⟩ | ⟨kind, rfl⟩ | ⟨kind, level, outer, inside, rfl⟩ | started
  · rw [kind]
    exact accounts_conjoined accounts settled
  · rw [kind]
    exact accounts_or accounts settled
  · rw [kind]
    exact accounts_regrouped accounts settled inside
  · exact accounts_stepOperand (accounts_beside accounts settled) rfl started

theorem accounts_colon {word : String} (accounts : state.Accounts limit kinds)
    (awaits : state.awaiting = .colon word) (taken : state.step limit token = .ok next) :
    next.Accounts limit (kinds ++ [token.kind]) := by
  by_cases names : token.kind = .colon
  · simp only [State.step, awaits, names, if_true, Except.ok.injEq] at taken
    subst taken
    rw [names]
    refine accounts_awaiting accounts awaits ?_
    rintro budget negations own rfl
    rfl
  · -- No colon: the word was a value, and the token is read behind it.
    have settled : state.settle.awaiting = .operator (state.negate (.term word)) := by
      rw [settle_colon awaits]
      rfl
    rw [step_settled settled names] at taken
    exact accounts_stepOperator (accounts_settle accounts) settled taken

theorem accounts_fieldValue {field : String} (accounts : state.Accounts limit kinds)
    (awaits : state.awaiting = .fieldValue field) (taken : state.step limit token = .ok next) :
    next.Accounts limit (kinds ++ [token.kind]) := by
  have opened {withLower : Bool} (opens : Opens token.kind withLower) :
      State.Accounts limit { state with awaiting := .lowerBound field withLower }
        (kinds ++ [token.kind]) := by
    refine accounts_awaiting accounts awaits ?_
    rintro budget negations own rfl
    exact ⟨token.kind, opens, rfl⟩
  simp only [State.step, awaits] at taken
  split at taken
  · next opening =>
    cases taken
    exact opened (opening ▸ .bracket)
  · next opening =>
    cases taken
    exact opened (opening ▸ .brace)
  · next value stands _ _ =>
    cases taken
    refine accounts_operand accounts awaits ?_
    rintro budget negations own rfl
    exact .holds (isValue_of_value stands)
  · cases taken

theorem accounts_lowerBound {field : String} {withLower : Bool}
    (accounts : state.Accounts limit kinds)
    (awaits : state.awaiting = .lowerBound field withLower)
    (taken : state.step limit token = .ok next) : next.Accounts limit (kinds ++ [token.kind]) := by
  simp only [State.step, awaits] at taken
  split at taken
  · next lower stands =>
    cases taken
    refine accounts_awaiting accounts awaits ?_
    rintro budget negations own ⟨opening, opens, rfl⟩
    exact ⟨opening, _, opens, isBound_of_bound stands, rfl⟩
  · cases taken

theorem accounts_rangeTo {field : String} {withLower : Bool} {lower : Option String}
    (accounts : state.Accounts limit kinds)
    (awaits : state.awaiting = .rangeTo field withLower lower)
    (taken : state.step limit token = .ok next) : next.Accounts limit (kinds ++ [token.kind]) := by
  simp only [State.step, awaits] at taken
  split at taken
  · next between =>
    cases taken
    refine accounts_awaiting accounts awaits ?_
    rintro budget negations own ⟨opening, low, opens, isLower, rfl⟩
    exact ⟨opening, low, opens, isLower, by simp [between]⟩
  · cases taken

theorem accounts_upperBound {field : String} {withLower : Bool} {lower : Option String}
    (accounts : state.Accounts limit kinds)
    (awaits : state.awaiting = .upperBound field withLower lower)
    (taken : state.step limit token = .ok next) : next.Accounts limit (kinds ++ [token.kind]) := by
  simp only [State.step, awaits] at taken
  split at taken
  · next upper stands =>
    cases taken
    refine accounts_awaiting accounts awaits ?_
    rintro budget negations own ⟨opening, low, opens, isLower, rfl⟩
    exact ⟨opening, low, _, opens, isLower, isBound_of_bound stands, rfl⟩
  · cases taken

theorem accounts_rangeClose {field : String} {withLower : Bool} {lower upper : Option String}
    (accounts : state.Accounts limit kinds)
    (awaits : state.awaiting = .rangeClose field withLower lower upper)
    (taken : state.step limit token = .ok next) : next.Accounts limit (kinds ++ [token.kind]) := by
  have closed {withUpper : Bool} (closes : Closes token.kind withUpper) :
      (state.complete (.range field lower upper withLower withUpper)).Accounts limit
        (kinds ++ [token.kind]) := by
    refine accounts_operand accounts awaits ?_
    rintro budget negations own ⟨opening, low, high, opens, isLower, isUpper, rfl⟩
    exact .range opens isLower isUpper closes
  simp only [State.step, awaits] at taken
  split at taken
  · next closing =>
    cases taken
    exact closed (closing ▸ .bracket)
  · next closing =>
    cases taken
    exact closed (closing ▸ .brace)
  · cases taken

/-- Every token that is taken keeps the account. -/
theorem accounts_step (accounts : state.Accounts limit kinds)
    (taken : state.step limit token = .ok next) : next.Accounts limit (kinds ++ [token.kind]) := by
  cases awaits : state.awaiting with
  | operand =>
    rw [step_operand awaits] at taken
    exact accounts_stepOperand accounts awaits taken
  | operator operand =>
    simp only [State.step, awaits] at taken
    exact accounts_stepOperator accounts awaits taken
  | colon word => exact accounts_colon accounts awaits taken
  | fieldValue field => exact accounts_fieldValue accounts awaits taken
  | lowerBound field withLower => exact accounts_lowerBound accounts awaits taken
  | rangeTo field withLower lower => exact accounts_rangeTo accounts awaits taken
  | upperBound field withLower lower => exact accounts_upperBound accounts awaits taken
  | rangeClose field withLower lower upper => exact accounts_rangeClose accounts awaits taken

theorem accounts_walk {tokens : List Token} (accounts : state.Accounts limit kinds)
    (walked : state.walk limit tokens = .ok next) :
    next.Accounts limit (kinds ++ tokens.map Token.kind) := by
  induction tokens generalizing state kinds with
  | nil =>
    cases walked
    simpa using accounts
  | cons token rest ih =>
    cases taken : state.step limit token with
    | error fault => simp [walk_cons_error taken] at walked
    | ok middle =>
      rw [walk_cons_ok taken] at walked
      simpa using ih (accounts_step accounts taken) walked

-- A condition at the end is derived from all tokens in front of it.
theorem derives_of_finish {condition : Condition} {stop : Token}
    (accounts : state.Accounts limit kinds) (finished : state.finish stop = .ok condition) :
    Derives .disjunction limit kinds condition := by
  have conclude {state : State} {operand : Condition} (accounts : state.Accounts limit kinds)
      (settled : state.awaiting = .operator operand)
      (finished : state.conclude operand stop = .ok condition) :
      Derives .disjunction limit kinds condition := by
    obtain ⟨budget, before, early, late, own, rfl, front, free, derived⟩ :=
      accounts_operator accounts settled
    have around := front.around
    unfold State.conclude at finished
    split at finished
    · next none =>
      cases finished
      rw [none] at around
      cases around
      simpa using condition_derives front.covers derived
    · cases finished
  rw [← finish_settle] at finished
  cases awaits : state.settle.awaiting with
  | operator operand =>
    simp only [State.finish, awaits] at finished
    exact conclude (accounts_settle accounts) awaits finished
  | colon word => exact absurd awaits (settle_ne_colon state word)
  | _ =>
    simp only [State.finish, awaits] at finished
    cases finished

/-- What the parser accepts is derived by the grammar within the limit. -/
theorem derives_of_walk {tokens : List Token} {condition : Condition} {stop : Token}
    (walked : State.walk limit {} tokens = .ok next) (finished : next.finish stop = .ok condition) :
    Derives .disjunction limit (tokens.map Token.kind) condition :=
  derives_of_finish (accounts_walk (accounts_start limit) walked) finished

end Steps

end BoolQuery.Parser
