import BoolQuery.Proofs.Parser.Runs

/-! What is told of a token that is refused: a field that is named is a word of the query, and only where
the TO or the end of a range is lacking can the token be one with a text of its own. -/
namespace BoolQuery.Parser
open Token

section Names

/-- The word that is named as a field if what is awaited does not come. -/
def Awaiting.name? : Awaiting → Option String
  | .operand | .operator _ => none
  | .colon name | .fieldValue name | .lowerBound name _ | .rangeTo name _ _ | .upperBound name _ _
  | .rangeClose name _ _ _ => some name

variable {limit : Nat} {state next : State} {operand : Condition} {token : Token}

theorem stepOperand_name (taken : state.stepOperand limit token = .ok next) :
    ∀ name ∈ next.awaiting.name?, token.kind = .word name := by
  rcases stepOperand_cases taken with
    ⟨text, word, rfl⟩ | ⟨text, -, rfl⟩ | ⟨-, -, rfl⟩ | ⟨-, -, rfl⟩
  · simp [Awaiting.name?, word]
  · simp [Awaiting.name?, State.complete]
  · simp [Awaiting.name?, State.negating]
  · simp [Awaiting.name?, State.nested]

theorem stepOperator_name (taken : state.stepOperator limit operand token = .ok next) :
    ∀ name ∈ next.awaiting.name?, token.kind = .word name := by
  rcases stepOperator_cases taken with
    ⟨-, rfl⟩ | ⟨-, rfl⟩ | ⟨-, level, outer, -, rfl⟩ | started
  · simp [Awaiting.name?, State.conjoined]
  · simp [Awaiting.name?, State.alternative]
  · simp [Awaiting.name?, State.regrouped, State.complete]
  · exact stepOperand_name started

-- A name is kept from the token in front or is the word that was read.
theorem step_name (taken : state.step limit token = .ok next) :
    ∀ name ∈ next.awaiting.name?, name ∈ state.awaiting.name? ∨ token.kind = .word name := by
  unfold State.step at taken
  intro name member
  split at taken
  case h_1 => exact Or.inr (stepOperand_name taken name member)
  case h_2 => exact Or.inr (stepOperator_name taken name member)
  case h_3 awaits =>
    split at taken
    · cases taken
      left
      simpa [awaits, Awaiting.name?] using member
    · exact Or.inr (stepOperator_name taken name member)
  -- What is left are values and the parts of a range, which keep the name or do without one.
  all_goals
    split at taken
    all_goals cases taken
    all_goals
      left
      simp_all [Awaiting.name?, State.complete]

theorem walk_name {known : String → Prop} {tokens : List Token}
    (before : ∀ name ∈ state.awaiting.name?, known name)
    (words : ∀ token ∈ tokens, ∀ name, token.kind = .word name → known name)
    (walked : state.walk limit tokens = .ok next) : ∀ name ∈ next.awaiting.name?, known name := by
  induction tokens generalizing state with
  | nil =>
    cases walked
    exact before
  | cons token rest ih =>
    cases taken : state.step limit token with
    | error fault => simp [walk_cons_error taken] at walked
    | ok middle =>
      rw [walk_cons_ok taken] at walked
      refine ih (fun name member => ?_)
        (fun other later => words other (List.mem_cons_of_mem token later)) walked
      rcases step_name taken name member with kept | word
      · exact before name kept
      · exact words token List.mem_cons_self name word

end Names

section Complaints

/-- A word is written among some tokens. -/
def Named (tokens : List Token) (word : String) : Prop := ∃ token ∈ tokens, token.kind = .word word

/-- What can be told of a token: the field that a lack names is known, and the token has no text except
where the TO or the end of a range is lacking. -/
inductive Complains (known : String → Prop) (kind : Kind) : Lack → Prop
  | operand (silent : kind.text? = none) : Complains known kind .operand
  | groupClose (silent : kind.text? = none) : Complains known kind .groupClose
  | fieldValue {field : String} (named : known field) (silent : kind.text? = none) :
    Complains known kind (.fieldValue field)
  | rangeBound {field : String} (named : known field) (silent : kind.text? = none) :
    Complains known kind (.rangeBound field)
  | rangeTo {field : String} (named : known field) : Complains known kind (.rangeTo field)
  | rangeClose {field : String} (named : known field) : Complains known kind (.rangeClose field)

variable {known : String → Prop} {limit : Nat} {state : State} {operand : Condition}
  {token stop found : Token} {lack : Lack}

theorem silent_of_value {kind : Kind} (none : value? kind = none) : kind.text? = .none := by
  cases kind <;> simp_all [value?, Kind.text?]

theorem silent_of_bound {kind : Kind} (none : bound? kind = none) : kind.text? = .none := by
  cases kind <;> simp_all [bound?, Kind.text?]

theorem stepOperand_complains
    (refused : state.stepOperand limit token = .error (.unexpected lack found)) :
    Complains known token.kind lack := by
  cases kind : token.kind with
  | not | openParen =>
    simp only [State.stepOperand, kind] at refused
    cases entered : state.enter limit token with
    | error other =>
      rw [entered, enter_error entered] at refused
      cases refused
    | ok next =>
      rw [entered] at refused
      cases refused
  | word text | phrase text | star => simp [State.stepOperand, kind] at refused
  | _ =>
    simp only [State.stepOperand, kind] at refused
    cases refused
    exact .operand rfl

theorem stepClose_complains (silent : token.kind.text? = none)
    (refused : state.stepClose operand token = .error (.unexpected lack found)) :
    Complains known token.kind lack := by
  unfold State.stepClose at refused
  split at refused
  · cases refused
  · split at refused
    · cases refused
    · cases refused
      exact .groupClose silent

theorem stepOperator_complains
    (refused : state.stepOperator limit operand token = .error (.unexpected lack found)) :
    Complains known token.kind lack := by
  cases kind : token.kind with
  | and | or => simp [State.stepOperator, kind] at refused
  | closeParen | closeBracket | closeBrace =>
    simp only [State.stepOperator, kind] at refused
    exact kind ▸ stepClose_complains (by rw [kind]; rfl) refused
  | _ =>
    simp only [State.stepOperator, kind] at refused
    exact kind ▸ stepOperand_complains refused

theorem step_complains (named : ∀ name ∈ state.awaiting.name?, known name)
    (refused : state.step limit token = .error (.unexpected lack found)) :
    Complains known token.kind lack := by
  unfold State.step at refused
  split at refused
  case h_1 => exact stepOperand_complains refused
  case h_2 => exact stepOperator_complains refused
  case h_3 =>
    split at refused
    · cases refused
    · exact stepOperator_complains refused
  case h_4 field awaits =>
    split at refused
    · cases refused
    · cases refused
    · cases refused
    · next none _ _ =>
      cases refused
      exact .fieldValue (named field (by simp [awaits, Awaiting.name?])) (silent_of_value none)
  case h_5 field withLower awaits =>
    split at refused
    · cases refused
    · next none =>
      cases refused
      exact .rangeBound (named field (by simp [awaits, Awaiting.name?])) (silent_of_bound none)
  case h_6 field withLower lower awaits =>
    split at refused
    · cases refused
    · cases refused
      exact .rangeTo (named field (by simp [awaits, Awaiting.name?]))
  case h_7 field withLower lower awaits =>
    split at refused
    · cases refused
    · next none =>
      cases refused
      exact .rangeBound (named field (by simp [awaits, Awaiting.name?])) (silent_of_bound none)
  case h_8 field withLower lower upper awaits =>
    split at refused
    · cases refused
    · cases refused
    · cases refused
      exact .rangeClose (named field (by simp [awaits, Awaiting.name?]))

theorem conclude_complains (silent : stop.kind.text? = none)
    (refused : state.conclude operand stop = .error (.unexpected lack found)) :
    Complains known stop.kind lack := by
  unfold State.conclude at refused
  split at refused
  · cases refused
  · cases refused
    exact .groupClose silent

theorem finish_complains (named : ∀ name ∈ state.awaiting.name?, known name)
    (silent : stop.kind.text? = none)
    (refused : state.finish stop = .error (.unexpected lack found)) :
    Complains known stop.kind lack := by
  unfold State.finish at refused
  split at refused
  case h_1 => exact conclude_complains silent refused
  case h_2 => exact conclude_complains silent refused
  case h_3 =>
    cases refused
    exact .operand silent
  case h_4 field awaits =>
    cases refused
    exact .fieldValue (named field (by simp [awaits, Awaiting.name?])) silent
  case h_5 field withLower awaits =>
    cases refused
    exact .rangeBound (named field (by simp [awaits, Awaiting.name?])) silent
  case h_6 field withLower lower awaits =>
    cases refused
    exact .rangeBound (named field (by simp [awaits, Awaiting.name?])) silent
  case h_7 field withLower lower awaits =>
    cases refused
    exact .rangeTo (named field (by simp [awaits, Awaiting.name?]))
  case h_8 field withLower lower upper awaits =>
    cases refused
    exact .rangeClose (named field (by simp [awaits, Awaiting.name?]))

/-- The faults that tokens can have, each with the token that is blamed. -/
inductive Faults (limit : Nat) (tokens : List Token) : Fault → Prop
  | empty {stop : Token} (only : tokens = [stop]) : Faults limit tokens .empty
  | tooDeep {token : Token} (member : token ∈ tokens) : Faults limit tokens (.tooDeep limit token.offset)
  | trailing {token : Token} (member : token ∈ tokens) : Faults limit tokens (.trailing token.offset)
  | unexpected {token : Token} {lack : Lack} (member : token ∈ tokens)
    (complains : Complains (Named tokens) token.kind lack) : Faults limit tokens (.unexpected lack token)

theorem faults_of_error {body : List Token} {fault : Fault} (ends : stop.kind = .stop)
    (inside : ∀ token ∈ body, token.kind ≠ .stop)
    (refused : parseTokens limit (body ++ [stop]) = .error fault) : Faults limit (body ++ [stop]) fault := by
  by_cases written : body = []
  · subst written
    obtain rfl : Fault.empty = fault := Except.error.inj ((parseTokens_stop ends).symm.trans refused)
    exact .empty rfl
  have words : ∀ token ∈ body, ∀ name, token.kind = .word name → Named (body ++ [stop]) name :=
    fun token member name word => ⟨token, List.mem_append_left _ member, word⟩
  rw [parseTokens_closed written ends inside] at refused
  cases walked : State.walk limit {} body with
  | ok state =>
    rw [walked] at refused
    have named := walk_name (by simp [Awaiting.name?]) words walked
    obtain ⟨lack, rfl⟩ := finish_error refused
    exact .unexpected (by simp) (finish_complains named (by rw [ends]; rfl) refused)
  | error other =>
    rw [walked] at refused
    cases refused
    obtain ⟨front, token, behind, state, rfl, reached, stuck⟩ := walk_error walked
    have earlier : ∀ other ∈ front, ∀ name, other.kind = .word name → _ := fun other member =>
      words other (List.mem_append_left _ member)
    have named := walk_name (by simp [Awaiting.name?]) earlier reached
    have member : token ∈ front ++ token :: behind ++ [stop] := by simp
    cases step_blames stuck with
    | tooDeep => exact .tooDeep member
    | trailing => exact .trailing member
    | unexpected lack => exact .unexpected member (step_complains named stuck)

end Complaints

end BoolQuery.Parser
