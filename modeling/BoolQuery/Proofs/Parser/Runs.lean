import BoolQuery.Parser

/-! Runs of the parser over tokens that are no end. A walk is a run without its last step; what a
state awaits behind a bare word is settled by the token that follows, so a settled state stands for
both. The limit on open groups and NOTs only refuses. -/
namespace BoolQuery.Parser
open Token

/-- Tokens whose only stop is the last one. -/
def Closed (tokens : List Token) : Prop :=
  ∃ body stop, tokens = body ++ [stop] ∧ stop.kind = .stop ∧ ∀ token ∈ body, token.kind ≠ .stop

section Walks

/-- The state behind some tokens, none of which is taken as the end. -/
def State.walk (limit : Nat) (state : State) : List Token → Except Fault State
  | [] => .ok state
  | token :: rest =>
    match state.step limit token with
    | .ok next => next.walk limit rest
    | .error fault => .error fault

theorem walk_nil (limit : Nat) (state : State) : state.walk limit [] = .ok state := rfl

theorem walk_cons_ok {limit : Nat} {state next : State} {token : Token}
    (taken : state.step limit token = .ok next) (rest : List Token) :
    state.walk limit (token :: rest) = next.walk limit rest := by
  simp only [State.walk, taken]

theorem walk_cons_error {limit : Nat} {state : State} {token : Token} {fault : Fault}
    (refused : state.step limit token = .error fault) (rest : List Token) :
    state.walk limit (token :: rest) = .error fault := by
  simp only [State.walk, refused]

theorem walk_append {limit : Nat} {state next : State} {first : List Token}
    (walked : state.walk limit first = .ok next) (second : List Token) :
    state.walk limit (first ++ second) = next.walk limit second := by
  induction first generalizing state with
  | nil =>
    cases walked
    rfl
  | cons token rest ih =>
    cases taken : state.step limit token with
    | error fault => simp [walk_cons_error taken] at walked
    | ok middle =>
      rw [walk_cons_ok taken] at walked
      rw [List.cons_append, walk_cons_ok taken]
      exact ih walked

theorem walk_append_ok {limit : Nat} {state last : State} {first second : List Token}
    (walked : state.walk limit (first ++ second) = .ok last) :
    ∃ next, state.walk limit first = .ok next ∧ next.walk limit second = .ok last := by
  induction first generalizing state with
  | nil => exact ⟨state, rfl, walked⟩
  | cons token rest ih =>
    cases taken : state.step limit token with
    | error fault => simp [walk_cons_error taken] at walked
    | ok middle =>
      rw [List.cons_append, walk_cons_ok taken] at walked
      obtain ⟨next, first, second⟩ := ih walked
      exact ⟨next, by rw [walk_cons_ok taken]; exact first, second⟩

-- A walk that is refused is refused at one token, behind a walk over those in front of it.
theorem walk_error {limit : Nat} {state : State} {tokens : List Token} {fault : Fault}
    (refused : state.walk limit tokens = .error fault) :
    ∃ before token behind next, tokens = before ++ token :: behind ∧
      state.walk limit before = .ok next ∧ next.step limit token = .error fault := by
  induction tokens generalizing state with
  | nil => simp [walk_nil] at refused
  | cons token rest ih =>
    cases taken : state.step limit token with
    | error other =>
      rw [walk_cons_error taken] at refused
      cases refused
      exact ⟨[], token, rest, state, rfl, rfl, taken⟩
    | ok middle =>
      rw [walk_cons_ok taken] at refused
      obtain ⟨before, last, behind, next, rfl, walked, stuck⟩ := ih refused
      exact ⟨token :: before, last, behind, next, rfl, by rw [walk_cons_ok taken]; exact walked, stuck⟩

theorem run_closed {limit : Nat} {state : State} {body : List Token} {stop : Token} (last : Nat)
    (ends : stop.kind = .stop) (inside : ∀ token ∈ body, token.kind ≠ .stop) :
    state.run limit last (body ++ [stop]) =
      match state.walk limit body with
      | .ok next => next.finish stop
      | .error fault => .error fault := by
  induction body generalizing state last with
  | nil => simp [State.run, State.walk, ends]
  | cons token rest ih =>
    have going : token.kind ≠ .stop := inside token List.mem_cons_self
    have others : ∀ token ∈ rest, token.kind ≠ .stop :=
      fun other member => inside other (List.mem_cons_of_mem token member)
    simp only [List.cons_append, State.run, State.walk, going, if_false]
    cases state.step limit token with
    | error fault => rfl
    | ok next => exact ih token.offset others

theorem parseTokens_closed {limit : Nat} {body : List Token} {stop : Token} (some : body ≠ [])
    (ends : stop.kind = .stop) (inside : ∀ token ∈ body, token.kind ≠ .stop) :
    parseTokens limit (body ++ [stop]) =
      match State.walk limit {} body with
      | .ok next => next.finish stop
      | .error fault => .error fault := by
  cases body with
  | nil => exact absurd rfl some
  | cons first rest =>
    have going : first.kind ≠ .stop := inside first List.mem_cons_self
    rw [← run_closed 0 ends inside]
    simp [parseTokens, going]

theorem parseTokens_stop {limit : Nat} {stop : Token} (ends : stop.kind = .stop) :
    parseTokens limit [stop] = .error .empty := by
  simp [parseTokens, ends]

/-- A query is accepted when the walk over its tokens ends where it may. -/
theorem parseTokens_eq_ok_iff {limit : Nat} {body : List Token} {stop : Token}
    {condition : Condition} (ends : stop.kind = .stop)
    (inside : ∀ token ∈ body, token.kind ≠ .stop) :
    parseTokens limit (body ++ [stop]) = .ok condition ↔
      ∃ next, State.walk limit {} body = .ok next ∧ next.finish stop = .ok condition := by
  by_cases some : body = []
  · subst some
    simp [parseTokens_stop ends, walk_nil, State.finish]
  · rw [parseTokens_closed some ends inside]
    cases walked : State.walk limit {} body with
    | ok next => simp
    | error fault => simp

end Walks

section Settling

/-- The state in which a word that might have been a field name is an operand. -/
def State.settle (state : State) : State :=
  match state.awaiting with
  | .colon word => state.complete (.term word)
  | _ => state

theorem settle_colon {state : State} {word : String} (awaits : state.awaiting = .colon word) :
    state.settle = state.complete (.term word) := by
  simp only [State.settle, awaits]

theorem settle_ne_colon (state : State) (word : String) : state.settle.awaiting ≠ .colon word := by
  cases awaits : state.awaiting with
  | colon other =>
    rw [settle_colon awaits]
    simp [State.complete]
  | _ => simp [State.settle, awaits]

theorem settle_outer (state : State) : state.settle.outer = state.outer := by
  unfold State.settle
  split <;> rfl

-- What is awaited when a token is read behind an operand makes no difference.
theorem stepOperator_awaiting (limit : Nat) (state : State) (awaiting : Awaiting)
    (operand : Condition) (token : Token) :
    { state with awaiting }.stepOperator limit operand token =
      state.stepOperator limit operand token := by
  unfold State.stepOperator State.stepClose
  cases token.kind <;> rfl

-- Any token but the colon is read alike before and after settling.
theorem step_settle {limit : Nat} {state : State} {token : Token} (other : token.kind ≠ .colon) :
    state.settle.step limit token = state.step limit token := by
  cases awaits : state.awaiting with
  | colon word =>
    rw [settle_colon awaits]
    simp only [State.step, awaits, other, if_false]
    exact stepOperator_awaiting limit state.leaveNegations _ _ token
  | _ => simp only [State.settle, awaits]

theorem finish_settle (state : State) (stop : Token) :
    state.settle.finish stop = state.finish stop := by
  cases awaits : state.awaiting with
  | colon word =>
    rw [settle_colon awaits]
    simp only [State.finish, awaits]
    rfl
  | _ => simp only [State.settle, awaits]

theorem finish_operator {state : State} {operand : Condition}
    (settled : state.settle.awaiting = .operator operand) (none : state.outer = [])
    (stop : Token) : state.finish stop = .ok (state.settle.level.condition operand) := by
  have outermost : state.settle.outer = [] := by rw [settle_outer, none]
  rw [← finish_settle]
  simp only [State.finish, settled, State.conclude, outermost]

end Settling

section Steps

variable {limit : Nat} {state next : State} {operand : Condition} {token : Token}

def State.negating (state : State) : State :=
  { state with
    level := { state.level with negations := state.level.negations + 1 }
    depth := state.depth + 1
    awaiting := .operand }

/-- The state at the beginning of a new group. -/
def State.nested (state : State) : State :=
  ⟨{}, state.level :: state.outer, state.depth + 1, .operand⟩

def State.conjoined (state : State) (operand : Condition) : State :=
  { state with
    level := { state.level with conjuncts := operand :: state.level.conjuncts }
    awaiting := .operand }

def State.alternative (state : State) (operand : Condition) : State :=
  { state with
    level := { alternatives := state.level.conjunction operand :: state.level.alternatives }
    awaiting := .operand }

/-- The state outside of a group, which stands there as one operand. -/
def State.regrouped (state : State) (operand : Condition) (level : Level) (outer : List Level) :
    State :=
  { state with level, outer, depth := state.depth - 1 }.complete (state.level.condition operand)

/-- A token can start an operand. -/
def startsOperand : Kind → Bool
  | .word _ | .phrase _ | .star | .openParen | .not => true
  | _ => false

theorem enter_ok (room : state.depth + 1 ≤ limit) (token : Token) :
    state.enter limit token = .ok { state with depth := state.depth + 1 } := by
  have shallow : ¬ state.depth + 1 > limit := by omega
  simp [State.enter, shallow]

theorem step_operand (awaits : state.awaiting = .operand) :
    state.step limit token = state.stepOperand limit token := by
  simp only [State.step, awaits]

theorem stepOperand_not (room : state.depth + 1 ≤ limit) (kind : token.kind = .not) :
    state.stepOperand limit token = .ok state.negating := by
  simp only [State.stepOperand, kind, enter_ok room]
  rfl

theorem stepOperand_openParen (room : state.depth + 1 ≤ limit) (kind : token.kind = .openParen) :
    state.stepOperand limit token = .ok state.nested := by
  simp only [State.stepOperand, kind, enter_ok room]
  rfl

theorem step_settled (settled : state.settle.awaiting = .operator operand)
    (other : token.kind ≠ .colon) :
    state.step limit token = state.settle.stepOperator limit operand token := by
  rw [← step_settle other]
  simp only [State.step, settled]

theorem step_and (settled : state.settle.awaiting = .operator operand) (kind : token.kind = .and) :
    state.step limit token = .ok (state.settle.conjoined operand) := by
  rw [step_settled settled (by simp [kind])]
  simp only [State.stepOperator, kind]
  rfl

theorem step_or (settled : state.settle.awaiting = .operator operand) (kind : token.kind = .or) :
    state.step limit token = .ok (state.settle.alternative operand) := by
  rw [step_settled settled (by simp [kind])]
  simp only [State.stepOperator, kind]
  rfl

-- A token that starts an operand is read as if OR stood in front of it.
theorem step_beside (settled : state.settle.awaiting = .operator operand)
    (starts : startsOperand token.kind) :
    state.step limit token = (state.settle.alternative operand).step limit token := by
  have other : token.kind ≠ .colon := by
    intro kind
    simp [kind, startsOperand] at starts
  rw [step_settled settled other, step_operand rfl]
  cases kind : token.kind with
  | word | phrase | star | openParen | not =>
    simp only [State.stepOperator, kind]
    rfl
  | _ => simp [kind, startsOperand] at starts

theorem step_close {level : Level} {outer : List Level}
    (settled : state.settle.awaiting = .operator operand) (inside : state.outer = level :: outer)
    (kind : token.kind = .closeParen) :
    state.step limit token = .ok (state.settle.regrouped operand level outer) := by
  have around : state.settle.outer = level :: outer := by rw [settle_outer, inside]
  rw [step_settled settled (by simp [kind])]
  simp only [State.stepOperator, State.stepClose, kind, around, if_true]
  rfl

-- All that a token can do where an operand has to start.
theorem stepOperand_cases (taken : state.stepOperand limit token = .ok next) :
    (∃ text, token.kind = .word text ∧ next = { state with awaiting := .colon text }) ∨
      (∃ text, (token.kind = .phrase text ∨ token.kind = .star ∧ text = "*") ∧
        next = state.complete (.term text)) ∨
      (token.kind = .not ∧ state.depth + 1 ≤ limit ∧ next = state.negating) ∨
      (token.kind = .openParen ∧ state.depth + 1 ≤ limit ∧ next = state.nested) := by
  cases kind : token.kind with
  | word text =>
    simp only [State.stepOperand, kind, Except.ok.injEq] at taken
    exact Or.inl ⟨text, rfl, taken.symm⟩
  | phrase text =>
    simp only [State.stepOperand, kind, Except.ok.injEq] at taken
    exact Or.inr (Or.inl ⟨text, Or.inl rfl, taken.symm⟩)
  | star =>
    simp only [State.stepOperand, kind, Except.ok.injEq] at taken
    exact Or.inr (Or.inl ⟨"*", Or.inr ⟨rfl, rfl⟩, taken.symm⟩)
  | not =>
    by_cases room : state.depth + 1 ≤ limit
    · rw [stepOperand_not room kind, Except.ok.injEq] at taken
      exact Or.inr (Or.inr (Or.inl ⟨rfl, room, taken.symm⟩))
    · simp [State.stepOperand, kind, State.enter, Nat.lt_of_not_le room, bind, Except.bind] at taken
  | openParen =>
    by_cases room : state.depth + 1 ≤ limit
    · rw [stepOperand_openParen room kind, Except.ok.injEq] at taken
      exact Or.inr (Or.inr (Or.inr ⟨rfl, room, taken.symm⟩))
    · simp [State.stepOperand, kind, State.enter, Nat.lt_of_not_le room, bind, Except.bind] at taken
  | _ => simp [State.stepOperand, kind] at taken

theorem stepClose_cases (taken : state.stepClose operand token = .ok next) :
    token.kind = .closeParen ∧ ∃ level outer, state.outer = level :: outer ∧
      next = state.regrouped operand level outer := by
  unfold State.stepClose at taken
  split at taken
  · cases taken
  · next level outer inside =>
    split at taken
    · next kind =>
      cases taken
      exact ⟨kind, level, outer, inside, rfl⟩
    · cases taken

-- All that a token can do behind an operand.
theorem stepOperator_cases (taken : state.stepOperator limit operand token = .ok next) :
    (token.kind = .and ∧ next = state.conjoined operand) ∨
      (token.kind = .or ∧ next = state.alternative operand) ∨
      (token.kind = .closeParen ∧ ∃ level outer, state.outer = level :: outer ∧
        next = state.regrouped operand level outer) ∨
      (state.alternative operand).stepOperand limit token = .ok next := by
  cases kind : token.kind with
  | and =>
    simp only [State.stepOperator, kind, Except.ok.injEq] at taken
    exact Or.inl ⟨rfl, taken.symm⟩
  | or =>
    simp only [State.stepOperator, kind, Except.ok.injEq] at taken
    exact Or.inr (Or.inl ⟨rfl, taken.symm⟩)
  | closeParen | closeBracket | closeBrace =>
    simp only [State.stepOperator, kind] at taken
    have closed := stepClose_cases taken
    rw [kind] at closed
    exact Or.inr (Or.inr (Or.inl closed))
  | _ =>
    simp only [State.stepOperator, kind] at taken
    exact Or.inr (Or.inr (Or.inr taken))

end Steps

section Limits

-- A token is read alike under a larger limit, unless the smaller one refuses it.
theorem stepOperand_weaken {limit more : Nat} (enough : limit ≤ more) (state : State)
    (token : Token) : state.stepOperand limit token = state.stepOperand more token ∨
      state.stepOperand limit token = .error (.tooDeep limit token.offset) := by
  by_cases deep : state.depth + 1 > limit
  · cases kind : token.kind <;>
      simp [State.stepOperand, State.enter, kind, deep, bind, Except.bind]
  · have shallow : ¬ state.depth + 1 > more := by omega
    left
    simp only [State.stepOperand, State.enter, deep, shallow, if_false]

theorem stepOperator_weaken {limit more : Nat} (enough : limit ≤ more) (state : State)
    (operand : Condition) (token : Token) :
    state.stepOperator limit operand token = state.stepOperator more operand token ∨
      state.stepOperator limit operand token = .error (.tooDeep limit token.offset) := by
  cases kind : token.kind with
  | and | or | closeParen | closeBracket | closeBrace =>
    left
    simp only [State.stepOperator, kind]
  | _ => simpa only [State.stepOperator, kind] using stepOperand_weaken enough _ token

theorem step_weaken {limit more : Nat} (enough : limit ≤ more) (state : State) (token : Token) :
    state.step limit token = state.step more token ∨
      state.step limit token = .error (.tooDeep limit token.offset) := by
  cases awaits : state.awaiting with
  | operand => simpa only [State.step, awaits] using stepOperand_weaken enough state token
  | operator operand =>
    simpa only [State.step, awaits] using stepOperator_weaken enough state operand token
  | colon word =>
    by_cases names : token.kind = .colon
    · left
      simp only [State.step, awaits, names, if_true]
    · simpa only [State.step, awaits, names, if_false] using stepOperator_weaken enough _ _ token
  | _ =>
    left
    simp only [State.step, awaits]

theorem walk_weaken {limit more : Nat} (enough : limit ≤ more) {state next : State}
    {tokens : List Token} (walked : state.walk limit tokens = .ok next) :
    state.walk more tokens = .ok next := by
  induction tokens generalizing state with
  | nil => exact walked
  | cons token rest ih =>
    cases taken : state.step limit token with
    | error fault => simp [walk_cons_error taken] at walked
    | ok middle =>
      rw [walk_cons_ok taken] at walked
      rcases step_weaken enough state token with same | deep
      · rw [walk_cons_ok (same ▸ taken)]
        exact ih walked
      · simp [deep] at taken

end Limits

section Blame

/-- The faults that reading a token can end with. Each of them tells where the token starts. -/
inductive Blames (limit : Nat) (token : Token) : Fault → Prop
  | tooDeep : Blames limit token (.tooDeep limit token.offset)
  | trailing : Blames limit token (.trailing token.offset)
  | unexpected (lack : Lack) : Blames limit token (.unexpected lack token)

theorem Blames.position {limit : Nat} {token : Token} {fault : Fault}
    (blames : Blames limit token fault) : fault.position? = some token.offset := by
  cases blames <;> rfl

theorem enter_error {limit : Nat} {state : State} {token : Token} {fault : Fault}
    (refused : state.enter limit token = .error fault) :
    fault = .tooDeep limit token.offset := by
  unfold State.enter at refused
  split at refused
  · cases refused
    rfl
  · cases refused

theorem stepOperand_blames {limit : Nat} {state : State} {token : Token} {fault : Fault}
    (refused : state.stepOperand limit token = .error fault) : Blames limit token fault := by
  cases kind : token.kind with
  | not | openParen =>
    simp only [State.stepOperand, kind] at refused
    cases entered : state.enter limit token with
    | error other =>
      rw [entered] at refused
      cases refused
      rw [enter_error entered]
      exact .tooDeep
    | ok next =>
      rw [entered] at refused
      cases refused
  | word text | phrase text | star => simp [State.stepOperand, kind] at refused
  | _ =>
    simp only [State.stepOperand, kind] at refused
    cases refused
    exact .unexpected .operand

theorem stepClose_blames {limit : Nat} {state : State} {operand : Condition} {token : Token}
    {fault : Fault} (refused : state.stepClose operand token = .error fault) :
    Blames limit token fault := by
  unfold State.stepClose at refused
  split at refused
  · cases refused
    exact .trailing
  · split at refused
    · cases refused
    · cases refused
      exact .unexpected .groupClose

theorem stepOperator_blames {limit : Nat} {state : State} {operand : Condition} {token : Token}
    {fault : Fault} (refused : state.stepOperator limit operand token = .error fault) :
    Blames limit token fault := by
  cases kind : token.kind with
  | and | or => simp [State.stepOperator, kind] at refused
  | closeParen | closeBracket | closeBrace =>
    simp only [State.stepOperator, kind] at refused
    exact stepClose_blames refused
  | _ =>
    simp only [State.stepOperator, kind] at refused
    exact stepOperand_blames refused

theorem step_blames {limit : Nat} {state : State} {token : Token} {fault : Fault}
    (refused : state.step limit token = .error fault) : Blames limit token fault := by
  unfold State.step at refused
  split at refused
  case h_1 => exact stepOperand_blames refused
  case h_2 => exact stepOperator_blames refused
  case h_3 =>
    split at refused
    · cases refused
    · exact stepOperator_blames refused
  -- What is left are values and the parts of a range: each takes its token or blames it.
  all_goals
    split at refused
    all_goals cases refused
    all_goals exact .unexpected _

theorem finish_error {state : State} {stop : Token} {fault : Fault}
    (refused : state.finish stop = .error fault) : ∃ lack, fault = .unexpected lack stop := by
  have conclude {state : State} {operand : Condition}
      (refused : state.conclude operand stop = .error fault) :
      ∃ lack, fault = .unexpected lack stop := by
    unfold State.conclude at refused
    split at refused
    · cases refused
    · cases refused
      exact ⟨_, rfl⟩
  unfold State.finish at refused
  split at refused
  case h_1 => exact conclude refused
  case h_2 => exact conclude refused
  all_goals
    cases refused
    exact ⟨_, rfl⟩

end Blame

end BoolQuery.Parser
