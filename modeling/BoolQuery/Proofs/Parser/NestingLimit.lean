import BoolQuery.Proofs.Query

/-! The limit on open groups and NOTs only refuses. Runs under two limits go the same way until a
token opens one group or NOT too many for the smaller of them. Under the larger one that token is
taken, so whatever is refused there is refused behind it. -/
namespace BoolQuery.Parser
open Token

section Depth

/-- A token that opens a group or a NOT. -/
def opensLevel : Kind → Bool
  | .openParen | .not => true
  | _ => false

/-- The groups and NOTs that tokens open, whether one inside another or not. -/
def levels (tokens : List Token) : Nat := tokens.countP fun token => opensLevel token.kind

theorem levels_append (first second : List Token) :
    levels (first ++ second) = levels first + levels second := List.countP_append

theorem levels_opening {token : Token} (opening : opensLevel token.kind) (rest : List Token) :
    levels (token :: rest) = levels rest + 1 := List.countP_cons_of_pos opening

theorem levels_cons_le (token : Token) (rest : List Token) : levels rest ≤ levels (token :: rest) := by
  simp only [levels, List.countP_cons]
  omega

variable {limit more : Nat} {state next : State} {operand : Condition} {token : Token}

theorem complete_depth_le (state : State) (operand : Condition) :
    (state.complete operand).depth ≤ state.depth := by
  simp [State.complete, State.leaveNegations]

/-- What a token does to the depth: it grows by one, within the limit, or does not grow. -/
def Deepens (limit depth : Nat) (token : Token) (after : Nat) : Prop :=
  after ≤ depth ∨ opensLevel token.kind ∧ after = depth + 1 ∧ after ≤ limit

theorem deepens_from {start lower after : Nat} (below : lower ≤ start)
    (deepens : Deepens limit lower token after) : Deepens limit start token after := by
  rcases deepens with kept | ⟨opening, grown, fits⟩
  · exact Or.inl (Nat.le_trans kept below)
  · by_cases same : lower = start
    · subst same
      exact Or.inr ⟨opening, grown, fits⟩
    · left
      omega

theorem stepOperand_deepens (taken : state.stepOperand limit token = .ok next) :
    Deepens limit state.depth token next.depth := by
  rcases stepOperand_cases taken with
    ⟨text, -, rfl⟩ | ⟨text, -, rfl⟩ | ⟨kind, room, rfl⟩ | ⟨kind, room, rfl⟩
  · left
    exact Nat.le_refl _
  · left
    exact complete_depth_le state _
  · right
    exact ⟨by simp [kind, opensLevel], rfl, room⟩
  · right
    exact ⟨by simp [kind, opensLevel], rfl, room⟩

theorem stepOperator_deepens (taken : state.stepOperator limit operand token = .ok next) :
    Deepens limit state.depth token next.depth := by
  rcases stepOperator_cases taken with
    ⟨-, rfl⟩ | ⟨-, rfl⟩ | ⟨-, level, outer, -, rfl⟩ | started
  · left
    exact Nat.le_refl _
  · left
    exact Nat.le_refl _
  · left
    exact Nat.le_trans (complete_depth_le _ _) (Nat.sub_le _ _)
  · have deepens : Deepens limit (state.alternative operand).depth token next.depth :=
      stepOperand_deepens started
    exact deepens

theorem step_deepens (taken : state.step limit token = .ok next) :
    Deepens limit state.depth token next.depth := by
  unfold State.step at taken
  split at taken
  case h_1 => exact stepOperand_deepens taken
  case h_2 => exact stepOperator_deepens taken
  case h_3 =>
    split at taken
    · cases taken
      left
      exact Nat.le_refl _
    · exact deepens_from (Nat.sub_le _ _) (stepOperator_deepens taken)
  -- What is left are values and the parts of a range, which open nothing.
  all_goals
    split at taken
    all_goals cases taken
    all_goals
      left
      simp [complete_depth_le]

/-- A run stays within the limit, and opens no more than its tokens do. -/
theorem walk_depth {tokens : List Token} (fits : state.depth ≤ limit)
    (walked : state.walk limit tokens = .ok next) :
    next.depth ≤ limit ∧ next.depth ≤ state.depth + levels tokens := by
  induction tokens generalizing state with
  | nil =>
    cases walked
    exact ⟨fits, Nat.le_add_right _ _⟩
  | cons token rest ih =>
    cases taken : state.step limit token with
    | error fault => simp [walk_cons_error taken] at walked
    | ok middle =>
      rw [walk_cons_ok taken] at walked
      rcases step_deepens taken with kept | ⟨opening, grown, within⟩
      · obtain ⟨small, few⟩ := ih (Nat.le_trans kept fits) walked
        have := levels_cons_le token rest
        exact ⟨small, by omega⟩
      · obtain ⟨small, few⟩ := ih within walked
        have := levels_opening opening rest
        exact ⟨small, by omega⟩

end Depth

section Refusals

variable {limit more : Nat} {state : State} {operand : Condition} {token : Token}

theorem stepOperand_room (opening : opensLevel token.kind) (room : state.depth + 1 ≤ limit) :
    ∃ next, state.stepOperand limit token = .ok next := by
  cases kind : token.kind with
  | not => exact ⟨_, stepOperand_not room kind⟩
  | openParen => exact ⟨_, stepOperand_openParen room kind⟩
  | _ => simp [kind, opensLevel] at opening

theorem stepOperand_deep {any offset : Nat}
    (refused : state.stepOperand limit token = .error (.tooDeep any offset)) :
    opensLevel token.kind := by
  cases kind : token.kind with
  | not | openParen => rfl
  | _ => simp [State.stepOperand, kind] at refused

theorem stepClose_deep {any offset : Nat} :
    state.stepClose operand token ≠ .error (.tooDeep any offset) := by
  intro refused
  unfold State.stepClose at refused
  split at refused
  · cases refused
  · split at refused
    · cases refused
    · cases refused

-- Behind an operand, too, it is a new operand that is refused for its depth.
theorem stepOperator_deep {any offset : Nat}
    (refused : state.stepOperator limit operand token = .error (.tooDeep any offset)) :
    opensLevel token.kind ∧ ∀ limit, state.stepOperator limit operand token =
      (state.alternative operand).stepOperand limit token := by
  cases kind : token.kind with
  | and | or => simp [State.stepOperator, kind] at refused
  | closeParen | closeBracket | closeBrace =>
    simp only [State.stepOperator, kind] at refused
    exact absurd refused stepClose_deep
  | _ =>
    have beside (limit : Nat) : state.stepOperator limit operand token =
        (state.alternative operand).stepOperand limit token := by
      simp only [State.stepOperator, kind]
      rfl
    rw [beside] at refused
    exact ⟨kind ▸ stepOperand_deep refused, beside⟩

/-- A token refused for its depth opens a group or a NOT, from a state no deeper than this one. -/
theorem step_deep {any offset : Nat}
    (refused : state.step limit token = .error (.tooDeep any offset)) :
    opensLevel token.kind ∧ ∃ start : State, start.depth ≤ state.depth ∧
      ∀ limit, state.step limit token = start.stepOperand limit token := by
  cases awaits : state.awaiting with
  | operand =>
    have same (limit : Nat) : state.step limit token = state.stepOperand limit token :=
      step_operand awaits
    rw [same] at refused
    exact ⟨stepOperand_deep refused, state, Nat.le_refl _, same⟩
  | operator operand =>
    have same (limit : Nat) : state.step limit token = state.stepOperator limit operand token := by
      simp only [State.step, awaits]
    rw [same] at refused
    obtain ⟨opening, beside⟩ := stepOperator_deep refused
    exact ⟨opening, state.alternative operand, Nat.le_refl _,
      fun limit => (same limit).trans (beside limit)⟩
  | colon word =>
    by_cases names : token.kind = .colon
    · simp [State.step, awaits, names] at refused
    · have same (limit : Nat) : state.step limit token =
          state.leaveNegations.stepOperator limit (state.negate (.term word)) token := by
        simp only [State.step, awaits, names, if_false]
      rw [same] at refused
      obtain ⟨opening, beside⟩ := stepOperator_deep refused
      exact ⟨opening, state.leaveNegations.alternative _, Nat.sub_le _ _,
        fun limit => (same limit).trans (beside limit)⟩
  | _ =>
    simp only [State.step, awaits] at refused
    split at refused
    all_goals cases refused

-- Where the limit leaves room for one more, the token is taken.
theorem step_room {any offset : Nat}
    (refused : state.step limit token = .error (.tooDeep any offset))
    (room : state.depth + 1 ≤ more) : ∃ next, state.step more token = .ok next := by
  obtain ⟨opening, start, below, same⟩ := step_deep refused
  have fits : start.depth + 1 ≤ more := by omega
  obtain ⟨next, taken⟩ := stepOperand_room opening fits
  exact ⟨next, (same more).trans taken⟩

end Refusals

section Comparison

variable {limit more : Nat} {body : List Token} {stop : Token}

-- The walks agree token by token, up to one that only the smaller limit refuses.
theorem walk_alike (enough : limit ≤ more) (state : State) (tokens : List Token) :
    state.walk limit tokens = state.walk more tokens ∨
      ∃ offset, state.walk limit tokens = .error (.tooDeep limit offset) := by
  induction tokens generalizing state with
  | nil =>
    left
    rfl
  | cons token rest ih =>
    rcases step_weaken enough state token with same | deep
    · cases taken : state.step more token with
      | error fault =>
        left
        rw [walk_cons_error taken, walk_cons_error (same.trans taken)]
      | ok next =>
        rw [walk_cons_ok taken, walk_cons_ok (same.trans taken)]
        exact ih next
    · right
      exact ⟨token.offset, walk_cons_error deep rest⟩

theorem parseTokens_alike (enough : limit ≤ more) (ends : stop.kind = .stop)
    (inside : ∀ token ∈ body, token.kind ≠ .stop) :
    parseTokens limit (body ++ [stop]) = parseTokens more (body ++ [stop]) ∨
      ∃ offset, parseTokens limit (body ++ [stop]) = .error (.tooDeep limit offset) := by
  by_cases written : body = []
  · left
    subst written
    rw [List.nil_append, parseTokens_stop ends, parseTokens_stop ends]
  · rw [parseTokens_closed written ends inside, parseTokens_closed written ends inside]
    rcases walk_alike enough {} body with same | ⟨offset, deep⟩
    · left
      rw [same]
    · right
      exact ⟨offset, by rw [deep]⟩

theorem deep_site {any offset : Nat} (ends : stop.kind = .stop)
    (inside : ∀ token ∈ body, token.kind ≠ .stop)
    (refused : parseTokens limit (body ++ [stop]) = .error (.tooDeep any offset)) :
    any = limit ∧ ∃ front token behind state, body = front ++ token :: behind ∧
      offset = token.offset ∧ State.walk limit {} front = .ok state ∧
      state.step limit token = .error (.tooDeep limit token.offset) := by
  have written : body ≠ [] := by
    rintro rfl
    rw [List.nil_append, parseTokens_stop ends] at refused
    cases refused
  rw [parseTokens_closed written ends inside] at refused
  cases walked : State.walk limit {} body with
  | ok state =>
    rw [walked] at refused
    obtain ⟨lack, same⟩ := finish_error refused
    cases same
  | error fault =>
    rw [walked] at refused
    cases refused
    obtain ⟨front, token, behind, state, rfl, reached, stuck⟩ := walk_error walked
    -- A token is only ever refused for the limit of the run and at its own place.
    cases step_blames stuck
    exact ⟨rfl, front, token, behind, state, rfl, rfl, reached, stuck⟩

theorem deep_levels {any offset : Nat} (ends : stop.kind = .stop)
    (inside : ∀ token ∈ body, token.kind ≠ .stop)
    (refused : parseTokens limit (body ++ [stop]) = .error (.tooDeep any offset)) :
    limit < levels body := by
  obtain ⟨-, front, token, behind, state, rfl, -, reached, stuck⟩ := deep_site ends inside refused
  obtain ⟨-, few⟩ := walk_depth (Nat.zero_le limit) reached
  obtain ⟨opening, -⟩ := step_deep stuck
  have all := levels_append front (token :: behind)
  have own := levels_opening opening behind
  by_cases room : state.depth + 1 ≤ limit
  · obtain ⟨next, taken⟩ := step_room stuck room
    simp [taken] at stuck
  · have start : ({} : State).depth = 0 := rfl
    omega

-- Behind a token that is taken, faults are about later tokens.
theorem fault_behind {front behind : List Token} {token : Token} {next : State} {fault : Fault}
    (taken : State.walk limit {} (front ++ [token]) = .ok next) (ends : stop.kind = .stop)
    (inside : ∀ other ∈ front ++ token :: behind, other.kind ≠ .stop)
    (refused : parseTokens limit (front ++ token :: behind ++ [stop]) = .error fault) :
    ∃ later ∈ behind ++ [stop], fault.position? = some later.offset := by
  have whole : State.walk limit {} (front ++ token :: behind) = next.walk limit behind := by
    rw [← walk_append taken, List.append_assoc, List.singleton_append]
  rw [parseTokens_closed (by simp) ends inside, whole] at refused
  cases walked : next.walk limit behind with
  | ok last =>
    rw [walked] at refused
    obtain ⟨lack, rfl⟩ := finish_error refused
    exact ⟨stop, by simp, rfl⟩
  | error other =>
    rw [walked] at refused
    cases refused
    obtain ⟨before, later, others, state, rfl, -, stuck⟩ := walk_error walked
    exact ⟨later, by simp, (step_blames stuck).position⟩

/-- What a smaller limit refuses for its depth, a larger one accepts or refuses at a later token. -/
theorem deep_passed {any offset : Nat} (larger : limit < more) (ends : stop.kind = .stop)
    (inside : ∀ token ∈ body, token.kind ≠ .stop)
    (refused : parseTokens limit (body ++ [stop]) = .error (.tooDeep any offset)) :
    ∃ front token behind, body = front ++ token :: behind ∧ offset = token.offset ∧
      opensLevel token.kind ∧ ∀ fault, parseTokens more (body ++ [stop]) = .error fault →
        ∃ later ∈ behind ++ [stop], fault.position? = some later.offset := by
  obtain ⟨-, front, token, behind, state, rfl, rfl, reached, stuck⟩ :=
    deep_site ends inside refused
  obtain ⟨opening, -⟩ := step_deep stuck
  obtain ⟨shallow, -⟩ := walk_depth (Nat.zero_le limit) reached
  have room : state.depth + 1 ≤ more := by omega
  obtain ⟨next, taken⟩ := step_room stuck room
  have onward : State.walk more {} (front ++ [token]) = .ok next := by
    rw [walk_append (walk_weaken (Nat.le_of_lt larger) reached), walk_cons_ok taken]
    rfl
  exact ⟨front, token, behind, rfl, rfl, opening,
    fun fault failed => fault_behind onward ends inside failed⟩

end Comparison

section Reports

/-- The report of nesting that a limit does not allow. -/
def deepReason (limit : Nat) : String := "query nesting exceeds maximum depth of " ++ toString limit

/-- Under the limit the query is refused for its nesting. -/
def RefusedForDepth (query : String) (limit : Nat) : Prop :=
  ∃ error, parse query limit = .error error ∧ error.reason = deepReason limit

/-- The outcome is a condition or an error behind a byte. -/
def GoesBeyond (offset : Nat) (outcome : Except QueryError Condition) : Prop :=
  (∃ condition, outcome = .ok condition) ∨
    ∃ error later, outcome = .error error ∧ error.position? = some later ∧ offset < later

def openedLevels (query : String) : Nat :=
  match tokenize query with
  | .ok tokens => levels tokens
  | .error _ => 0

theorem head_append {c : Char} {first : String} (begins : first.toList.head? = some c)
    (second : String) : (first ++ second).toList.head? = some c := by
  rw [String.toList_append, List.head?_append, begins]
  rfl

-- The first letter of its wording tells a fault of the limit from all others.
theorem ne_deepReason {c : Char} {reason : String} (begins : reason.toList.head? = some c)
    (other : c ≠ 'q') (limit : Nat) : reason ≠ deepReason limit := by
  intro worded
  have deep : (deepReason limit).toList.head? = some 'q' := head_append (by decide) _
  rw [worded, deep] at begins
  exact other (Option.some.inj begins).symm

theorem lack_message_head (lack : Lack) : lack.message.toList.head? = some 'e' := by
  cases lack with
  | operand | groupClose => decide
  | fieldValue field | rangeBound field | rangeTo field | rangeClose field =>
    exact head_append (head_append (by decide) field) _

theorem deep_of_reason {fault : Fault} {limit : Nat} (worded : fault.reason = deepReason limit) :
    ∃ any offset, fault = .tooDeep any offset := by
  cases fault with
  | tooDeep any offset => exact ⟨any, offset, rfl⟩
  | empty =>
    have begins : "empty query".toList.head? = some 'e' := by decide
    exact absurd worded (ne_deepReason begins (by decide) limit)
  | trailing offset =>
    have begins : "unexpected trailing input".toList.head? = some 'u' := by decide
    exact absurd worded (ne_deepReason begins (by decide) limit)
  | unexpected lack found =>
    have begins : (lack.message ++ ", found " ++ found.kind.describe).toList.head? = some 'e' :=
      head_append (head_append (lack_message_head lack) _) _
    exact absurd worded (ne_deepReason begins (by decide) limit)

theorem lexer_reason_ne (fault : Lexer.Fault) (limit : Nat) :
    (QueryError.ofLexer fault).reason ≠ deepReason limit := by
  cases fault with
  | unterminatedPhrase start =>
    have begins : "unterminated quoted string".toList.head? = some 'u' := by decide
    exact ne_deepReason begins (by decide) limit
  | danglingEscape mark =>
    have begins : "trailing escape character".toList.head? = some 't' := by decide
    exact ne_deepReason begins (by decide) limit

-- Whatever limit an error speaks of, its run was refused for its own.
theorem refused_for_depth {query : String} {limit any : Nat} {error : QueryError}
    (refused : parse query limit = .error error) (worded : error.reason = deepReason any) :
    ∃ body stop offset, tokenize query = .ok (body ++ [stop]) ∧ stop.kind = .stop ∧
      (∀ token ∈ body, token.kind ≠ .stop) ∧
      parseTokens limit (body ++ [stop]) = .error (.tooDeep limit offset) ∧
      error = .ofParser (.tooDeep limit offset) := by
  cases read : Lexer.tokenize query with
  | error fault =>
    rw [parse, tokenize, read] at refused
    cases refused
    exact absurd worded (lexer_reason_ne fault any)
  | ok tokens =>
    have found : tokenize query = .ok tokens := by
      rw [tokenize, read]
      rfl
    obtain ⟨fault, parsed, rfl⟩ := parse_error_tokens found refused
    obtain ⟨body, stop, rfl, ends, inside⟩ := tokenize_closed found
    obtain ⟨other, offset, rfl⟩ := deep_of_reason worded
    obtain ⟨rfl, -⟩ := deep_site ends inside parsed
    exact ⟨body, stop, offset, found, ends, inside, parsed, rfl⟩

theorem refusedForDepth_of_deep {query : String} {limit offset : Nat} {tokens : List Token}
    (read : tokenize query = .ok tokens)
    (deep : parseTokens limit tokens = .error (.tooDeep limit offset)) :
    RefusedForDepth query limit := by
  refine ⟨.ofParser (.tooDeep limit offset), ?_, rfl⟩
  rw [parse_of_tokens read, deep]
  rfl

theorem parse_alike {query : String} {limit more : Nat} (enough : limit ≤ more)
    (admitted : ¬ RefusedForDepth query limit) : parse query more = parse query limit := by
  cases read : tokenize query with
  | error fault =>
    rw [parse, parse, read]
    rfl
  | ok tokens =>
    obtain ⟨body, stop, rfl, ends, inside⟩ := tokenize_closed read
    rw [parse_of_tokens read, parse_of_tokens read]
    rcases parseTokens_alike enough ends inside with same | ⟨offset, deep⟩
    · rw [same]
    · exact absurd (refusedForDepth_of_deep read deep) admitted

theorem refused_below {query : String} {limit more : Nat} (enough : limit ≤ more)
    (refused : RefusedForDepth query more) : RefusedForDepth query limit := by
  by_cases below : RefusedForDepth query limit
  · exact below
  · obtain ⟨error, failed, worded⟩ := refused
    rw [parse_alike enough below] at failed
    obtain ⟨body, stop, offset, -, -, -, -, rfl⟩ := refused_for_depth failed worded
    exact ⟨_, failed, rfl⟩

theorem admitted_of_levels {query : String} {limit : Nat} (enough : openedLevels query ≤ limit) :
    ¬ RefusedForDepth query limit := by
  rintro ⟨error, refused, worded⟩
  obtain ⟨body, stop, offset, read, ends, inside, deep, -⟩ := refused_for_depth refused worded
  have few := deep_levels ends inside deep
  have all := levels_append body [stop]
  simp only [openedLevels, read] at enough
  omega

-- Going down from a limit that admits the query, the last one that does is the threshold.
theorem least_limit {query : String} {enough : Nat} (admitted : ¬ RefusedForDepth query enough) :
    ∃ threshold, threshold ≤ enough ∧
      ∀ limit, RefusedForDepth query limit ↔ limit < threshold := by
  induction enough with
  | zero =>
    refine ⟨0, Nat.le_refl 0, fun limit => ⟨fun refused => ?_, fun none => absurd none (by omega)⟩⟩
    exact absurd (refused_below (Nat.zero_le limit) refused) admitted
  | succ enough ih =>
    by_cases below : RefusedForDepth query enough
    · refine ⟨enough + 1, Nat.le_refl _, fun limit => ⟨fun refused => ?_, fun fewer => ?_⟩⟩
      · by_cases fewer : limit < enough + 1
        · exact fewer
        · exact absurd (refused_below (by omega) refused) admitted
      · exact refused_below (by omega) below
    · obtain ⟨threshold, small, exact⟩ := ih below
      exact ⟨threshold, by omega, exact⟩

theorem deep_goes_beyond {query : String} {limit more : Nat} {error : QueryError}
    (larger : limit < more) (refused : parse query limit = .error error)
    (worded : error.reason = deepReason limit) :
    ∃ tokens token, tokenize query = .ok tokens ∧ token ∈ tokens ∧ opensLevel token.kind ∧
      error.position? = some token.offset ∧ GoesBeyond token.offset (parse query more) := by
  obtain ⟨body, stop, offset, read, ends, inside, deep, rfl⟩ := refused_for_depth refused worded
  obtain ⟨front, token, behind, rfl, rfl, opening, beyond⟩ := deep_passed larger ends inside deep
  have increasing := segmented_increasing (tokenize_eq_ok_iff.mp read)
  refine ⟨_, token, read, by simp, opening, rfl, ?_⟩
  rw [parse_of_tokens read]
  cases outcome : parseTokens more (front ++ token :: behind ++ [stop]) with
  | ok condition =>
    left
    exact ⟨condition, rfl⟩
  | error fault =>
    right
    obtain ⟨later, member, position⟩ := beyond fault outcome
    refine ⟨.ofParser fault, later.offset, rfl, position, ?_⟩
    rw [List.append_assoc, List.cons_append] at increasing
    have following := (List.pairwise_append.mp increasing).2.1
    exact (List.pairwise_cons.mp following).1 later member

/-- The limit only refuses. A query that it does not refuse for its nesting comes out alike under
every larger limit. The refusal is at a parenthesis or a NOT, and under a larger limit whatever
is wrong is wrong behind it. From one threshold on, at most the number of those tokens, the
outcome is that without a limit. -/
theorem limit_only_refuses (query : String) :
    (∀ limit more, limit < more → ¬ RefusedForDepth query limit →
      parse query more = parse query limit) ∧
    (∀ limit more error, limit < more → parse query limit = .error error →
      error.reason = deepReason limit →
      ∃ tokens token, tokenize query = .ok tokens ∧ token ∈ tokens ∧ opensLevel token.kind ∧
        error.position? = some token.offset ∧ GoesBeyond token.offset (parse query more)) ∧
    (∀ limit, openedLevels query ≤ limit → ¬ RefusedForDepth query limit) ∧
    ∃ threshold unbounded, threshold ≤ openedLevels query ∧
      (∀ limit, RefusedForDepth query limit ↔ limit < threshold) ∧
      (∀ limit, threshold ≤ limit → parse query limit = unbounded) ∧
      ∀ limit condition, parse query limit = .ok condition → unbounded = .ok condition := by
  obtain ⟨threshold, few, exact⟩ := least_limit (admitted_of_levels (Nat.le_refl _))
  have admitted (limit : Nat) (enough : threshold ≤ limit) : ¬ RefusedForDepth query limit := by
    rw [exact]
    omega
  have settled (limit : Nat) (enough : threshold ≤ limit) :
      parse query limit = parse query threshold :=
    parse_alike enough (admitted threshold (Nat.le_refl _))
  refine ⟨fun limit more larger => parse_alike (Nat.le_of_lt larger),
    fun limit more error larger => deep_goes_beyond larger,
    fun limit enough => admitted_of_levels enough,
    threshold, parse query threshold, few, exact, settled, ?_⟩
  intro limit condition accepted
  have enough : threshold ≤ limit := by
    by_cases below : limit < threshold
    · obtain ⟨error, refused, -⟩ := (exact limit).mpr below
      simp [refused] at accepted
    · omega
  rw [← settled limit enough]
  exact accepted

theorem nested_group_is_refused_first :
    parse "NOT (a ]" 1 =
        .error (.grammatical "query nesting exceeds maximum depth of 1" (some 4)) ∧
      GoesBeyond 4 (parse "NOT (a ]" 2) ∧ ¬ RefusedForDepth "NOT (a ]" 2 ∧
      parse "NOT (a ]" 9 = parse "NOT (a ]" 2 := by
  have read : tokenize "NOT (a ]" = .ok [⟨.not, 0⟩, ⟨.openParen, 4⟩, ⟨.word "a", 5⟩,
      ⟨.closeBracket, 7⟩, ⟨.stop, 8⟩] := tokenize_of_found (by decide +kernel)
  have refused : parse "NOT (a ]" 1 =
      .error (.grammatical "query nesting exceeds maximum depth of 1" (some 4)) := by
    rw [parse_of_tokens read]
    rfl
  have opened : openedLevels "NOT (a ]" ≤ 2 := by
    rw [openedLevels, read]
    decide
  obtain ⟨alike, deep, enough, -⟩ := limit_only_refuses "NOT (a ]"
  obtain ⟨tokens, token, -, -, -, position, beyond⟩ := deep 1 2 _ (by decide) refused rfl
  have place : 4 = token.offset := Option.some.inj position
  rw [← place] at beyond
  exact ⟨refused, beyond, enough 2 opened, alike 2 9 (by decide) (enough 2 opened)⟩

end Reports

end BoolQuery.Parser
