import BoolQuery.Parser.Descent
import BoolQuery.Proofs.Parser.Derivations

/-! The machine comes to what the descent reads. Where a rule of the descent begins, the machine is
in a state that is ready for the rule; where the rule returns, the machine has the operands of its
condition on the innermost level and the same tokens in front of it. Faults are passed on as they
are. -/
namespace BoolQuery.Parser
open Token Grammar Descent

section Runs

/-- There is an end among the tokens. Up to there they are read. -/
def Stops (tokens : List Token) : Prop := ∃ token ∈ tokens, token.kind = .stop

theorem stops_rest {token : Token} {rest : List Token} (going : token.kind ≠ .stop)
    (stops : Stops (token :: rest)) : Stops rest := by
  obtain ⟨stop, member, ends⟩ := stops
  rcases List.mem_cons.mp member with rfl | later
  · exact absurd ends going
  · exact ⟨stop, later, ends⟩

variable {limit : Nat} {state next : State} {token : Token} {tokens rest : List Token}

theorem at_head {property : Token → Prop} (holds : property token) :
    ∀ first ∈ (token :: rest).head?, property first := by
  intro first same
  obtain rfl : token = first := Option.some.inj same
  exact holds

theorem stops_ne_nil : ¬ Stops [] := by
  rintro ⟨token, member, -⟩
  cases member

-- Where the last token started matters only to tokens without an end.
theorem run_last (stops : Stops tokens) (last other : Nat) :
    state.run limit last tokens = state.run limit other tokens := by
  cases tokens with
  | nil => exact absurd stops stops_ne_nil
  | cons token rest => rfl

theorem run_stop (ends : token.kind = .stop) (last : Nat) (rest : List Token) :
    state.run limit last (token :: rest) = state.finish token := by
  simp only [State.run, ends, if_true]

theorem run_taken (going : token.kind ≠ .stop) (stops : Stops (token :: rest))
    (taken : state.step limit token = .ok next) :
    Stops rest ∧ state.run limit 0 (token :: rest) = next.run limit 0 rest := by
  have others := stops_rest going stops
  refine ⟨others, ?_⟩
  simp only [State.run, going, if_false, taken]
  exact run_last others _ _

theorem run_refused {fault : Fault} (going : token.kind ≠ .stop)
    (refused : state.step limit token = .error fault) (last : Nat) :
    state.run limit last (token :: rest) = .error fault := by
  simp only [State.run, going, if_false, refused]

-- Runs from two states that treat the first token alike are alike.
theorem run_congr {other : State} (step : state.step limit token = other.step limit token)
    (finish : state.finish token = other.finish token) :
    state.run limit 0 (token :: rest) = other.run limit 0 (token :: rest) := by
  simp only [State.run, step, finish]

theorem run_settle (stops : Stops tokens) (other : ∀ token ∈ tokens.head?, token.kind ≠ .colon) :
    state.settle.run limit 0 tokens = state.run limit 0 tokens := by
  cases tokens with
  | nil => exact absurd stops stops_ne_nil
  | cons token rest =>
    exact run_congr (step_settle (other token rfl)) (finish_settle state token)

-- Behind an operand, a closing token that is neither a parenthesis nor the end closes no group.
theorem run_unclosed {operand : Condition} {level : Level} {outer : List Level}
    (awaits : state.awaiting = .operator operand) (inside : state.outer = level :: outer)
    (closing : closes token.kind) (other : token.kind ≠ .closeParen) :
    state.run limit 0 (token :: rest) = .error (.unexpected .groupClose token) := by
  cases kind : token.kind with
  | stop =>
    rw [run_stop kind]
    simp only [State.finish, awaits, State.conclude, inside]
  | closeBracket | closeBrace =>
    refine run_refused (by simp [kind]) ?_ 0
    simp only [State.step, awaits, State.stepOperator, kind, State.stepClose, inside]
    rfl
  | closeParen => exact absurd kind other
  | _ => simp [kind, closes] at closing

-- Outside of all groups a closing token ends the query or is too much.
theorem run_outermost {operand : Condition} (awaits : state.awaiting = .operator operand)
    (outside : state.outer = []) (closing : closes token.kind) :
    state.run limit 0 (token :: rest) =
      if token.kind = .stop then .ok (state.level.condition operand)
      else .error (.trailing token.offset) := by
  cases kind : token.kind with
  | stop =>
    rw [run_stop kind]
    simp only [State.finish, awaits, State.conclude, outside]
    rfl
  | closeParen | closeBracket | closeBrace =>
    refine run_refused (by simp [kind]) ?_ 0
    simp only [State.step, awaits, State.stepOperator, kind, State.stepClose, outside]
  | _ => simp [kind, closes] at closing

end Runs

section Agreement

variable {α β : Type} {limit : Nat} {state : State} {input tokens others : List Token}

/-- What the machine does with some input is what was read: it fails alike, or it arrives at a state
with the same tokens in front of it. -/
def Agrees (limit : Nat) (state : State) (input : List Token)
    (arrives : Reading α tokens → State → Prop) : Except Fault (Reading α tokens) → Prop
  | .ok reading => Stops reading.rest ∧ ∃ next, arrives reading next ∧
      state.run limit 0 input = next.run limit 0 reading.rest
  | .error fault => state.run limit 0 input = .error fault

-- What holds from where the machine gets to holds from where it is.
theorem agrees_trans {next : State} {further : List Token}
    {outcome : Except Fault (Reading α tokens)} {arrives : Reading α tokens → State → Prop}
    (ran : state.run limit 0 input = next.run limit 0 further)
    (agrees : Agrees limit next further arrives outcome) :
    Agrees limit state input arrives outcome := by
  cases outcome with
  | error fault => exact ran.trans agrees
  | ok last =>
    obtain ⟨ends, final, arrived, onward⟩ := agrees
    exact ⟨ends, final, arrived, ran.trans onward⟩

theorem agrees_bind {first : Except Fault (Reading α tokens)}
    {more : Reading α tokens → Except Fault (Reading β others)}
    {middle : Reading α tokens → State → Prop} {arrives : Reading β others → State → Prop}
    (agrees : Agrees limit state input middle first)
    (onward : ∀ reading next, Stops reading.rest → middle reading next →
      Agrees limit next reading.rest arrives (more reading)) :
    Agrees limit state input arrives (first >>= more) := by
  cases first with
  | error fault => exact agrees
  | ok reading =>
    obtain ⟨stops, next, reached, ran⟩ := agrees
    exact agrees_trans ran (onward reading next stops reached)

theorem agrees_mono {outcome : Except Fault (Reading α tokens)}
    {arrives further : Reading α tokens → State → Prop}
    (agrees : Agrees limit state input arrives outcome)
    (onward : ∀ reading next, arrives reading next → further reading next) :
    Agrees limit state input further outcome := by
  cases outcome with
  | error fault => exact agrees
  | ok reading =>
    obtain ⟨stops, next, arrived, ran⟩ := agrees
    exact ⟨stops, next, onward reading next arrived, ran⟩

theorem agrees_taken {token : Token} {next : State} {arrives : Reading α tokens → State → Prop}
    {outcome : Except Fault (Reading α tokens)} (going : token.kind ≠ .stop)
    (taken : state.step limit token = .ok next) (stops : Stops (token :: input))
    (agrees : Stops input → Agrees limit next input arrives outcome) :
    Agrees limit state (token :: input) arrives outcome := by
  obtain ⟨others, ran⟩ := run_taken going stops taken
  exact agrees_trans ran (agrees others)

end Agreement

section Terms

variable {limit : Nat} {tokens rest : List Token} {field : String}

theorem agrees_one {α : Type} {meaning : Kind → Option α} {lack : Lack} {state : State}
    (next : α → State) (stops : Stops tokens) (noStop : meaning .stop = none)
    (finish : ∀ stop, state.finish stop = .error (.unexpected lack stop))
    (step : ∀ token ∈ tokens.head?, state.step limit token =
      match meaning token.kind with
      | some value => .ok (next value)
      | none => .error (.unexpected lack token)) :
    Agrees limit state tokens (fun reading after => after = next reading.value)
      (readOne meaning lack tokens) := by
  cases tokens with
  | nil => exact absurd stops stops_ne_nil
  | cons token rest =>
    have stepped := step token rfl
    by_cases ends : token.kind = .stop
    · simp only [readOne, ends, noStop]
      exact (run_stop ends 0 rest).trans (finish token)
    · cases means : meaning token.kind with
      | none =>
        simp only [readOne, means]
        rw [means] at stepped
        exact run_refused ends stepped 0
      | some value =>
        simp only [readOne, means]
        rw [means] at stepped
        obtain ⟨others, ran⟩ := run_taken ends stops stepped
        exact ⟨others, _, rfl, ran⟩

-- Between the tokens of a range the machine is in four states, and each takes one token.
theorem agrees_lowerBound (start : State) (field : String) (withLower : Bool)
    (stops : Stops tokens) :
    Agrees limit { start with awaiting := .lowerBound field withLower } tokens
      (fun reading after =>
        after = { start with awaiting := .rangeTo field withLower reading.value })
      (readOne bound? (.rangeBound field) tokens) := by
  apply agrees_one (fun lower => { start with awaiting := .rangeTo field withLower lower }) stops rfl
  · intro stop
    rfl
  · intro token _
    simp only [State.step]
    cases bound? token.kind <;> rfl

theorem agrees_rangeTo (start : State) (field : String) (withLower : Bool) (lower : Option String)
    (stops : Stops tokens) :
    Agrees limit { start with awaiting := .rangeTo field withLower lower } tokens
      (fun _ after => after = { start with awaiting := .upperBound field withLower lower })
      (readOne to? (.rangeTo field) tokens) := by
  apply agrees_one (fun _ => { start with awaiting := .upperBound field withLower lower }) stops rfl
  · intro stop
    rfl
  · intro token _
    simp only [State.step]
    cases token.kind <;> rfl

theorem agrees_upperBound (start : State) (field : String) (withLower : Bool)
    (lower : Option String) (stops : Stops tokens) :
    Agrees limit { start with awaiting := .upperBound field withLower lower } tokens
      (fun reading after =>
        after = { start with awaiting := .rangeClose field withLower lower reading.value })
      (readOne bound? (.rangeBound field) tokens) := by
  apply agrees_one (fun upper => { start with awaiting := .rangeClose field withLower lower upper })
    stops rfl
  · intro stop
    rfl
  · intro token _
    simp only [State.step]
    cases bound? token.kind <;> rfl

theorem agrees_rangeClose (start : State) (field : String) (withLower : Bool)
    (lower upper : Option String) (stops : Stops tokens) :
    Agrees limit { start with awaiting := .rangeClose field withLower lower upper } tokens
      (fun reading after =>
        after = start.complete (.range field lower upper withLower reading.value))
      (readOne close? (.rangeClose field) tokens) := by
  apply agrees_one (fun withUpper => start.complete (.range field lower upper withLower withUpper))
    stops rfl
  · intro stop
    rfl
  · intro token _
    simp only [State.step]
    cases token.kind <;> rfl

theorem agrees_range (start : State) (field : String) (withLower : Bool) (stops : Stops tokens) :
    Agrees limit { start with awaiting := .lowerBound field withLower } tokens
      (fun reading after => after = start.complete reading.value)
      (readRange field withLower tokens) := by
  unfold readRange
  apply agrees_bind (agrees_lowerBound start field withLower stops)
  rintro lower _ stops rfl
  apply agrees_bind (agrees_rangeTo start field withLower lower.value stops)
  rintro _ _ stops rfl
  apply agrees_bind (agrees_upperBound start field withLower lower.value stops)
  rintro upper _ stops rfl
  apply agrees_bind (agrees_rangeClose start field withLower lower.value upper.value stops)
  rintro last _ stops rfl
  exact ⟨stops, _, rfl, rfl⟩

theorem agrees_scoped (start : State) (field : String) (stops : Stops tokens) :
    Agrees limit { start with awaiting := .fieldValue field } tokens
      (fun reading after => after = start.complete reading.value) (readScoped field tokens) := by
  unfold readScoped
  split
  · apply agrees_taken (by simp) rfl stops
    intro others
    apply agrees_bind (agrees_range start field true others)
    rintro range _ stops rfl
    exact ⟨stops, _, rfl, rfl⟩
  · apply agrees_taken (by simp) rfl stops
    intro others
    apply agrees_bind (agrees_range start field false others)
    rintro range _ stops rfl
    exact ⟨stops, _, rfl, rfl⟩
  · next noBracket noBrace =>
    have value : Agrees limit { start with awaiting := .fieldValue field } tokens
        (fun reading after => after = start.complete (.holds field reading.value))
        (readOne value? (.fieldValue field) tokens) := by
      apply agrees_one (fun value => start.complete (.holds field value)) stops rfl (fun stop => rfl)
      intro token first
      obtain ⟨rest, written⟩ := List.head?_eq_some_iff.mp first
      obtain ⟨kind, offset⟩ := token
      cases kind with
      | openBracket => exact (noBracket offset rest written).elim
      | openBrace => exact (noBrace offset rest written).elim
      | _ => rfl
    apply agrees_bind value
    rintro range _ stops rfl
    exact ⟨stops, _, rfl, rfl⟩

-- A word that no colon follows is a value, and so are phrases and stars.
theorem agrees_value {start : State} (awaits : start.awaiting = .operand) (stops : Stops tokens)
    (plain : ∀ token ∈ tokens.head?, token.kind ≠ .not ∧ token.kind ≠ .openParen)
    (noField : ∀ field offset place rest,
      tokens ≠ ⟨.word field, offset⟩ :: ⟨.colon, place⟩ :: rest) :
    Agrees limit start tokens (fun reading after => after = start.complete (.term reading.value))
      (readOne value? .operand tokens) := by
  cases tokens with
  | nil => exact absurd stops stops_ne_nil
  | cons token rest =>
    obtain ⟨noNot, noParen⟩ := plain token rfl
    obtain ⟨kind, offset⟩ := token
    have step : start.step limit ⟨kind, offset⟩ = start.stepOperand limit ⟨kind, offset⟩ :=
      step_operand awaits
    have finish (stop : Token) : start.finish stop = .error (.unexpected .operand stop) := by
      simp only [State.finish, awaits]
    cases kind with
    | word text =>
      obtain ⟨others, ran⟩ := run_taken (by simp) stops step
      have noColon : ∀ token ∈ rest.head?, token.kind ≠ .colon := by
        rintro ⟨_, place⟩ first rfl
        obtain ⟨behind, rfl⟩ := List.head?_eq_some_iff.mp first
        exact noField text offset place behind rfl
      exact ⟨others, _, rfl, ran.trans (run_settle others noColon).symm⟩
    | phrase text | star =>
      obtain ⟨others, ran⟩ := run_taken (by simp) stops step
      exact ⟨others, _, rfl, ran⟩
    | not => exact absurd rfl noNot
    | openParen => exact absurd rfl noParen
    | stop => exact (run_stop rfl 0 rest).trans (finish _)
    | _ => exact run_refused (by simp) step 0

theorem agrees_term {start : State} (awaits : start.awaiting = .operand) (stops : Stops tokens)
    (plain : ∀ token ∈ tokens.head?, token.kind ≠ .not ∧ token.kind ≠ .openParen) :
    Agrees limit start tokens (fun reading after => after = start.complete reading.value)
      (readTerm tokens) := by
  unfold readTerm
  split
  · next field offset place rest =>
    have named : start.step limit ⟨.word field, offset⟩ =
        .ok { start with awaiting := .colon field } := by
      rw [step_operand awaits]
      rfl
    apply agrees_taken (by simp) named stops
    intro others
    apply agrees_taken (by simp) rfl others
    intro behind
    apply agrees_bind (agrees_scoped start field behind)
    rintro behind _ stops rfl
    exact ⟨stops, _, rfl, rfl⟩
  · next noField =>
    apply agrees_bind (agrees_value awaits stops plain noField)
    rintro value _ stops rfl
    exact ⟨stops, _, rfl, rfl⟩

end Terms

section Steps

variable {limit : Nat} {state : State} {operand : Condition} {rest : List Token} {token : Token}

theorem settle_operator (awaits : state.awaiting = .operator operand) : state.settle = state := by
  simp only [State.settle, awaits]

theorem step_conjoined (awaits : state.awaiting = .operator operand) (joins : token.kind = .and) :
    state.step limit token = .ok (state.conjoined operand) := by
  have settled := settle_operator awaits
  rw [step_and (settled ▸ awaits) joins, settled]

theorem step_alternative (awaits : state.awaiting = .operator operand) (joins : token.kind = .or) :
    state.step limit token = .ok (state.alternative operand) := by
  have settled := settle_operator awaits
  rw [step_or (settled ▸ awaits) joins, settled]

theorem step_regrouped {start after : State} {inner : Condition}
    (taken : Taken start.nested after inner .disjunction) (closed : token.kind = .closeParen) :
    after.step limit token = .ok (start.complete inner) := by
  obtain ⟨alternatives, conjuncts, last, rfl, arrived⟩ := taken
  have awaits : after.awaiting = .operator last := by rw [arrived]
  have settled := settle_operator awaits
  have inside : after.outer = start.level :: start.outer := by
    rw [arrived]
    rfl
  rw [step_close (settled ▸ awaits) inside closed, settled, arrived, regrouped_nested]

-- A token that neither goes on with the chains nor closes them is read as if OR stood in front.
theorem run_beside (awaits : state.awaiting = .operator operand) (noClose : ¬ closes token.kind)
    (noOr : token.kind ≠ .or) (noAnd : token.kind ≠ .and) :
    state.run limit 0 (token :: rest) = (state.alternative operand).run limit 0 (token :: rest) := by
  have step : state.step limit token = (state.alternative operand).stepOperand limit token := by
    simp only [State.step, awaits]
    cases kind : token.kind with
    | and => exact absurd kind noAnd
    | or => exact absurd kind noOr
    | closeParen | closeBracket | closeBrace | stop => simp [kind, closes] at noClose
    | _ =>
      simp only [State.stepOperator, kind]
      rfl
  have going : token.kind ≠ .stop := by
    intro stop
    simp [stop, closes] at noClose
  simp only [State.run, going, if_false, step]
  rfl

theorem stepOperand_full (full : state.depth + 1 > limit)
    (opening : token.kind = .not ∨ token.kind = .openParen) :
    state.stepOperand limit token = .error (.tooDeep limit token.offset) := by
  rcases opening with kind | kind
  · simp only [State.stepOperand, kind, State.enter, full, if_true]
    rfl
  · simp only [State.stepOperand, kind, State.enter, full, if_true]
    rfl

-- A chain of one operand is the operand.
theorem taken_conjunction {start after : State} {only : Condition} (ready : Ready .conjunction start)
    (taken : Taken start after only .negation) : Taken start after only .conjunction := by
  refine ⟨[], only, rfl, ?_⟩
  rw [taken, complete_ready ready.2]
  rfl

theorem taken_disjunction {start after : State} {only : Condition} (ready : Ready .disjunction start)
    (taken : Taken start after only .conjunction) : Taken start after only .disjunction := by
  obtain ⟨-, free, alone⟩ := ready
  obtain ⟨conjuncts, last, rfl, rfl⟩ := taken
  refine ⟨[], conjuncts, last, rfl, ?_⟩
  simp [alone, free]

end Steps

section Rules

variable {limit depth : Nat} {tokens rest : List Token} {token : Token}

/-- What may stand behind what a rule read: the rule would have gone on with anything else. -/
def EndsRule : Rule → Kind → Prop
  | .operand, _ | .negation, _ => True
  | .conjunction, kind => kind ≠ .and
  | .disjunction, kind => closes kind

/-- From every state that is ready for a rule, the machine does what the rule of the descent does. -/
def Follows (limit : Nat) (place : Rule) (depth : Nat) (tokens : List Token)
    (outcome : Except Fault (Reading Condition tokens)) : Prop :=
  ∀ start : State, Ready place start → start.depth = depth → Stops tokens →
    Agrees limit start tokens (fun reading after => Taken start after reading.value place ∧
      ∀ token ∈ reading.rest.head?, EndsRule place token.kind) outcome

-- Both count what they open, and refuse it at the same token when it is too much.
theorem agrees_entered {start opened : State}
    {inside : Except Fault (Reading Condition (token :: rest))}
    {arrives : Reading Condition (token :: rest) → State → Prop} (awaits : start.awaiting = .operand)
    (opening : token.kind = .not ∨ token.kind = .openParen) (stops : Stops (token :: rest))
    (opens : start.depth + 1 ≤ limit → start.stepOperand limit token = .ok opened)
    (agrees : Stops rest → Agrees limit opened rest arrives inside) :
    Agrees limit start (token :: rest) arrives (do enter limit start.depth token; inside) := by
  have step : start.step limit token = start.stepOperand limit token := step_operand awaits
  have going : token.kind ≠ .stop := by
    rcases opening with kind | kind
    all_goals simp [kind]
  by_cases full : start.depth + 1 > limit
  · have refused : enter limit start.depth token = .error (.tooDeep limit token.offset) :=
      if_pos full
    rw [refused]
    exact run_refused going (step.trans (stepOperand_full full opening)) 0
  · have entered : enter limit start.depth token = .ok () := if_neg full
    rw [entered]
    exact agrees_taken going (step.trans (opens (Nat.le_of_not_lt full))) stops agrees

theorem follows_not (kind : token.kind = .not)
    (inside : Follows limit .negation (depth + 1) rest (readNot limit (depth + 1) rest)) :
    Follows limit .negation depth (token :: rest) (readNot limit depth (token :: rest)) := by
  rintro start awaits rfl stops
  rw [readNot]
  simp only [kind, if_true]
  apply agrees_entered awaits (Or.inl kind) stops fun room => stepOperand_not room kind
  intro others
  apply agrees_bind (inside start.negating rfl rfl others)
  rintro inner _ stops ⟨rfl, -⟩
  exact ⟨stops, _, ⟨complete_negating start inner.value, fun token _ => trivial⟩, rfl⟩

/-- A token that is no NOT comes first, as where the rule of an operand is called. -/
def NoNegation (tokens : List Token) : Prop := ∀ token ∈ tokens.head?, token.kind ≠ .not

theorem follows_operand (kind : token.kind ≠ .not)
    (plain : NoNegation (token :: rest) → Follows limit .operand depth (token :: rest)
      (readPrimary limit depth (token :: rest))) :
    Follows limit .negation depth (token :: rest) (readNot limit depth (token :: rest)) := by
  intro start awaits deep stops
  rw [readNot]
  simp only [kind, if_false]
  exact plain (at_head kind) start awaits deep stops

-- Behind what was read inside of a group there is its parenthesis, or another closing token.
theorem follows_group (kind : token.kind = .openParen)
    (inside : Follows limit .disjunction (depth + 1) rest (readOr limit (depth + 1) rest)) :
    Follows limit .operand depth (token :: rest) (readPrimary limit depth (token :: rest)) := by
  rintro start awaits rfl stops
  rw [readPrimary]
  simp only [kind, if_true]
  apply agrees_entered awaits (Or.inr kind) stops fun room => stepOperand_openParen room kind
  intro others
  apply agrees_bind (inside start.nested ⟨rfl, rfl, rfl⟩ rfl others)
  rintro ⟨inner, behind, shorter⟩ after stops ⟨taken, ends⟩
  cases behind with
  | nil => exact absurd stops stops_ne_nil
  | cons closing more =>
    by_cases closed : closing.kind = .closeParen
    · simp only [closed, if_true]
      apply agrees_taken (by simp [closed]) (step_regrouped taken closed) stops
      intro others
      exact ⟨others, _, ⟨rfl, fun token _ => trivial⟩, rfl⟩
    · simp only [closed, if_false]
      obtain ⟨alternatives, conjuncts, last, rfl, rfl⟩ := taken
      exact run_unclosed rfl rfl (ends closing rfl) closed

theorem follows_term (noParen : token.kind ≠ .openParen) (noNot : NoNegation (token :: rest)) :
    Follows limit .operand depth (token :: rest) (readPrimary limit depth (token :: rest)) := by
  rintro start awaits - stops
  rw [readPrimary]
  simp only [noParen, if_false]
  have plain : ∀ first ∈ (token :: rest).head?, first.kind ≠ .not ∧ first.kind ≠ .openParen :=
    at_head ⟨noNot token rfl, noParen⟩
  apply agrees_mono (agrees_term awaits stops plain)
  rintro reading _ rfl
  exact ⟨rfl, fun token _ => trivial⟩

theorem follows_and (first : Follows limit .negation depth tokens (readNot limit depth tokens))
    (others : ∀ (left : Reading Condition tokens) (token : Token) (rest : List Token),
      left.rest = token :: rest → Follows limit .conjunction depth rest (readAnd limit depth rest)) :
    Follows limit .conjunction depth tokens (readAnd limit depth tokens) := by
  intro start ready deep stops
  rw [readAnd]
  apply agrees_bind (first start ready.1 deep stops)
  rintro ⟨left, behind, shorter⟩ after stops ⟨taken, -⟩
  obtain ⟨awaits, again, depth, onward⟩ := taken_conjunct ready taken
  cases behind with
  | nil => exact absurd stops stops_ne_nil
  | cons token rest =>
    by_cases joins : token.kind = .and
    · simp only [joins, if_true]
      apply agrees_taken (by simp [joins]) (step_conjoined awaits joins) stops
      intro further
      apply agrees_bind (others ⟨left, _, shorter⟩ token rest rfl _ again (depth.trans deep)
        further)
      rintro right last stops ⟨reached, ends⟩
      exact ⟨stops, last, ⟨onward _ _ reached, ends⟩, rfl⟩
    · simp only [joins, if_false]
      exact ⟨stops, after, ⟨taken_conjunction ready taken, at_head joins⟩, rfl⟩

theorem follows_or (first : Follows limit .conjunction depth tokens (readAnd limit depth tokens))
    (others : ∀ (left : Reading Condition tokens) (token : Token) (rest : List Token),
      left.rest = token :: rest → Follows limit .disjunction depth rest (readOr limit depth rest))
    (beside : ∀ (left : Reading Condition tokens) (token : Token) (rest : List Token),
      left.rest = token :: rest →
      Follows limit .disjunction depth (token :: rest) (readOr limit depth (token :: rest))) :
    Follows limit .disjunction depth tokens (readOr limit depth tokens) := by
  intro start ready deep stops
  rw [readOr]
  apply agrees_bind (first start ⟨ready.1, ready.2.1⟩ deep stops)
  rintro ⟨left, behind, shorter⟩ after stops ⟨taken, ends⟩
  obtain ⟨last, awaits, again, depth, onward⟩ := taken_alternative ready taken
  cases behind with
  | nil => exact absurd stops stops_ne_nil
  | cons token rest =>
    by_cases closing : closes token.kind
    · simp only [closing, if_true]
      exact ⟨stops, after, ⟨taken_disjunction ready taken, at_head closing⟩, rfl⟩
    by_cases joins : token.kind = .or
    · simp only [joins, if_true]
      apply agrees_taken (by simp [joins]) (step_alternative awaits joins) stops
      intro further
      apply agrees_bind (others ⟨left, _, shorter⟩ token rest rfl _ again (depth.trans deep)
        further)
      rintro right final stops ⟨reached, ends⟩
      exact ⟨stops, final, ⟨onward _ _ reached, ends⟩, rfl⟩
    · simp only [closing, joins, if_false]
      apply agrees_trans (run_beside awaits closing joins (ends token rfl))
      apply agrees_bind (beside ⟨left, _, shorter⟩ token rest rfl _ again (depth.trans deep)
        stops)
      rintro right final stops ⟨reached, ends⟩
      exact ⟨stops, final, ⟨onward _ _ reached, ends⟩, rfl⟩

theorem follows_nil (place : Rule) (outcome : Except Fault (Reading Condition [])) :
    Follows limit place depth [] outcome :=
  fun _ _ _ stops => absurd stops stops_ne_nil

/-- Every rule of the descent is followed, at every depth and whatever the tokens. -/
theorem follows_readOr (limit depth : Nat) (tokens : List Token) :
    Follows limit .disjunction depth tokens (readOr limit depth tokens) := by
  -- Induction as the rules call each other, with a case for each way to begin.
  apply readOr.induct
    (fun depth tokens => Follows limit .disjunction depth tokens (readOr limit depth tokens))
    (fun depth tokens => Follows limit .conjunction depth tokens (readAnd limit depth tokens))
    (fun depth tokens => Follows limit .negation depth tokens (readNot limit depth tokens))
    (fun depth tokens => NoNegation tokens →
      Follows limit .operand depth tokens (readPrimary limit depth tokens))
  case case1 => exact fun depth tokens => follows_or
  case case2 => exact fun depth tokens => follows_and
  case case3 => exact fun depth => follows_nil .negation _
  case case4 => exact fun depth token rest => follows_not
  case case5 => exact fun depth token rest => follows_operand
  case case6 => exact fun depth _ => follows_nil .operand _
  case case7 => exact fun depth token rest kind inside _ => follows_group kind inside
  case case8 => exact fun depth token rest => follows_term

end Rules

-- From its first state the machine reads all tokens as the descent does.
theorem reads_as_descent {limit : Nat} {tokens : List Token} (stops : Stops tokens) :
    parseTokens limit tokens = Descent.parseTokens limit tokens := by
  have follows := follows_readOr limit 0 _ {} ⟨rfl, rfl, rfl⟩ rfl stops
  cases tokens with
  | nil => rfl
  | cons first rest =>
    by_cases atEnd : first.kind = .stop
    · simp only [parseTokens, Descent.parseTokens, atEnd, if_true]
    simp only [parseTokens, Descent.parseTokens, atEnd, if_false]
    cases outcome : readOr limit 0 (first :: rest) with
    | error fault =>
      rw [outcome] at follows
      exact follows
    | ok whole =>
      rw [outcome] at follows
      obtain ⟨value, behind, shorter⟩ := whole
      obtain ⟨others, after, ⟨⟨alternatives, conjuncts, last, rfl, rfl⟩, closing⟩, ran⟩ := follows
      cases behind with
      | nil => exact absurd others stops_ne_nil
      | cons token more =>
        refine ran.trans ((run_outermost rfl rfl (closing token rfl)).trans ?_)
        simp only [List.append_nil]
        rfl

/-- The machine gives every list of tokens that ends with a stop the result of recursive descent: the
same condition, or the same fault at the same token. -/
theorem machine_reads_as_descent (limit : Nat) (body : List Token) {stop : Token}
    (ends : stop.kind = .stop) :
    parseTokens limit (body ++ [stop]) = Descent.parseTokens limit (body ++ [stop]) :=
  reads_as_descent ⟨stop, by simp, ends⟩

-- The chain in the group is given up in the middle, with a NOT and a conjunct already read.
theorem unfinished_chain_in_group :
    parseTokens 2 ([⟨.word "a", 0⟩, ⟨.openParen, 2⟩, ⟨.not, 3⟩, ⟨.word "b", 7⟩, ⟨.and, 9⟩,
        ⟨.closeParen, 12⟩] ++ [⟨.stop, 13⟩]) = .error (.unexpected .operand ⟨.closeParen, 12⟩) ∧
      Descent.parseTokens 2 ([⟨.word "a", 0⟩, ⟨.openParen, 2⟩, ⟨.not, 3⟩, ⟨.word "b", 7⟩,
        ⟨.and, 9⟩, ⟨.closeParen, 12⟩] ++ [⟨.stop, 13⟩]) =
          .error (.unexpected .operand ⟨.closeParen, 12⟩) := by
  have machine : parseTokens 2 ([⟨.word "a", 0⟩, ⟨.openParen, 2⟩, ⟨.not, 3⟩, ⟨.word "b", 7⟩,
      ⟨.and, 9⟩, ⟨.closeParen, 12⟩] ++ [⟨.stop, 13⟩]) =
        .error (.unexpected .operand ⟨.closeParen, 12⟩) := rfl
  exact ⟨machine, (machine_reads_as_descent 2 _ rfl).symm.trans machine⟩

end BoolQuery.Parser
