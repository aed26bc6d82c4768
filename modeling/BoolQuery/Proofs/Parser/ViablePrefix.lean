import BoolQuery.Proofs.Query

/-! Where a query goes wrong. Every state of the parser can still be brought to an end, without
opening anything, so the tokens in front of a refused one are the beginning of some query. The
refused token is not: whatever follows it, the parser reads the same tokens the same way. -/
namespace BoolQuery.Parser
open Token

/-- Some query that is accepted under the limit begins with the tokens. -/
def Completable (limit : Nat) (front : List Token) : Prop :=
  ∃ behind condition, Closed (front ++ behind) ∧
    parseTokens limit (front ++ behind) = .ok condition

section Completion

/-- The shortest way from what is awaited to a complete operand. -/
def Awaiting.completion : Awaiting → List Kind
  | .operand | .fieldValue _ => [.star]
  | .colon _ | .operator _ => []
  | .lowerBound _ _ => [.star, .to, .star, .closeBracket]
  | .rangeTo _ _ _ => [.to, .star, .closeBracket]
  | .upperBound _ _ _ => [.star, .closeBracket]
  | .rangeClose _ _ _ _ => [.closeBracket]

theorem completion_ne_stop (awaiting : Awaiting) : ∀ kind ∈ awaiting.completion, kind ≠ .stop := by
  cases awaiting <;> simp [Awaiting.completion]

theorem walk_completion (limit : Nat) (state : State) :
    ∃ next operand, state.walk limit (state.awaiting.completion.map (⟨·, 0⟩)) = .ok next ∧
      next.outer = state.outer ∧ next.settle.awaiting = .operator operand := by
  obtain ⟨level, outer, depth, awaiting⟩ := state
  -- What is awaited fixes the tokens, and the walk over them is computed.
  cases awaiting <;> exact ⟨_, _, rfl, rfl, rfl⟩

theorem walk_close (limit : Nat) {outer : List Level} {state : State} {operand : Condition}
    (inside : state.outer = outer) (settled : state.settle.awaiting = .operator operand) :
    ∃ next closed, state.walk limit (List.replicate outer.length ⟨.closeParen, 0⟩) = .ok next ∧
      next.outer = [] ∧ next.settle.awaiting = .operator closed := by
  induction outer generalizing state operand with
  | nil => exact ⟨state, operand, rfl, inside, settled⟩
  | cons level outer ih =>
    have fewer : (state.settle.regrouped operand level outer).outer = outer := rfl
    obtain ⟨last, whole, walked, none, ends⟩ := ih fewer rfl
    refine ⟨last, whole, ?_, none, ends⟩
    rw [List.length_cons, List.replicate_succ, walk_cons_ok (step_close settled inside rfl)]
    exact walked

/-- From every state some tokens lead to where a query may end. No limit stands in their way: they
open no group and no NOT. -/
theorem walk_to_end (limit : Nat) (state : State) :
    ∃ more next, (∀ token ∈ more, token.kind ≠ .stop) ∧ state.walk limit more = .ok next ∧
      ∀ stop, ∃ condition, next.finish stop = .ok condition := by
  obtain ⟨middle, operand, completed, inside, settled⟩ := walk_completion limit state
  obtain ⟨last, closed, walked, none, ends⟩ := walk_close limit inside settled
  refine ⟨_, last, ?_, (walk_append completed _).trans walked,
    fun stop => ⟨_, finish_operator ends none stop⟩⟩
  intro token member
  rcases List.mem_append.mp member with early | late
  · obtain ⟨kind, listed, rfl⟩ := List.mem_map.mp early
    exact completion_ne_stop state.awaiting kind listed
  · rw [(List.mem_replicate.mp late).2]
    simp

theorem completable_of_walk {limit : Nat} {front : List Token} {state : State}
    (going : ∀ token ∈ front, token.kind ≠ .stop)
    (walked : State.walk limit {} front = .ok state) : Completable limit front := by
  obtain ⟨more, last, others, onward, ends⟩ := walk_to_end limit state
  obtain ⟨condition, finished⟩ := ends ⟨.stop, 0⟩
  have inside : ∀ token ∈ front ++ more, token.kind ≠ .stop := by
    intro token member
    rcases List.mem_append.mp member with early | late
    · exact going token early
    · exact others token late
  refine ⟨more ++ [⟨.stop, 0⟩], condition, ⟨front ++ more, ⟨.stop, 0⟩, by simp, rfl, inside⟩, ?_⟩
  rw [← List.append_assoc, parseTokens_eq_ok_iff rfl inside]
  exact ⟨last, (walk_append walked more).trans onward, finished⟩

end Completion

section Hopeless

-- Tokens in front of the last one of a closed list go on, and so does one with others behind.
theorem closed_front {front behind : List Token} {token : Token}
    (closed : Closed (front ++ token :: behind)) :
    (∀ other ∈ front, other.kind ≠ .stop) ∧
      (behind = [] ∧ token.kind = .stop ∨
        token.kind ≠ .stop ∧ ∃ body stop, front ++ token :: behind = front ++ token :: body ++ [stop] ∧
          stop.kind = .stop ∧ ∀ other ∈ front ++ token :: body, other.kind ≠ .stop) := by
  obtain ⟨body, stop, same, ends, inside⟩ := closed
  rcases List.eq_nil_or_concat behind with rfl | ⟨rest, last, rfl⟩
  · obtain ⟨rfl, only⟩ := List.append_inj' same rfl
    cases only
    exact ⟨inside, Or.inl ⟨rfl, ends⟩⟩
  · rw [List.concat_eq_append, ← List.cons_append, ← List.append_assoc] at same
    obtain ⟨rfl, only⟩ := List.append_inj' same rfl
    cases only
    have within : token.kind ≠ .stop := inside token (by simp)
    refine ⟨fun other member => inside other (by simp [member]),
      Or.inr ⟨within, rest, stop, ?_, ends, inside⟩⟩
    simp

-- An accepted continuation under any limit is a walk under a larger one.
theorem walk_of_accepted {any limit : Nat} {body : List Token} {stop : Token}
    {condition : Condition} (ends : stop.kind = .stop)
    (inside : ∀ token ∈ body, token.kind ≠ .stop)
    (accepted : parseTokens any (body ++ [stop]) = .ok condition) (enough : any ≤ limit) :
    ∃ last, State.walk limit {} body = .ok last ∧ last.finish stop = .ok condition := by
  obtain ⟨last, walked, finished⟩ := (parseTokens_eq_ok_iff ends inside).mp accepted
  exact ⟨last, walk_weaken enough walked, finished⟩

theorem hopeless_of_step {limit : Nat} {front : List Token} {token : Token} {state : State}
    {fault : Fault} (walked : State.walk limit {} front = .ok state)
    (refused : state.step limit token = .error fault)
    (shallow : fault ≠ .tooDeep limit token.offset) (going : token.kind ≠ .stop) (any : Nat) :
    ¬ Completable any (front ++ [token]) := by
  rintro ⟨behind, condition, closed, accepted⟩
  rw [List.append_assoc, List.singleton_append] at closed accepted
  rcases (closed_front closed).2 with ⟨-, ends⟩ | ⟨-, body, stop, same, ends, inside⟩
  · exact going ends
  · -- Both runs are compared under one limit that is large enough for either of them.
    let both := max any limit
    rw [same] at accepted
    obtain ⟨last, whole, -⟩ := walk_of_accepted ends inside accepted (Nat.le_max_left any limit)
    obtain ⟨middle, first, onward⟩ := walk_append_ok whole
    have again := walk_weaken (Nat.le_max_right any limit) walked
    obtain rfl : state = middle := by simpa [again] using first
    rcases step_weaken (Nat.le_max_right any limit) state token with alike | deep
    · rw [alike] at refused
      simp [walk_cons_error refused] at onward
    · rw [deep] at refused
      cases refused
      exact shallow rfl

theorem hopeless_of_finish {limit : Nat} {body : List Token} {stop : Token} {state : State}
    {fault : Fault} (walked : State.walk limit {} body = .ok state)
    (refused : state.finish stop = .error fault) (ends : stop.kind = .stop) (any : Nat) :
    ¬ Completable any (body ++ [stop]) := by
  rintro ⟨behind, condition, closed, accepted⟩
  rw [List.append_assoc, List.singleton_append] at closed accepted
  obtain ⟨inside, ⟨rfl, -⟩ | ⟨going, -⟩⟩ := closed_front closed
  · obtain ⟨last, whole, finished⟩ :=
      walk_of_accepted ends inside accepted (Nat.le_max_left any limit)
    have again := walk_weaken (Nat.le_max_right any limit) walked
    obtain rfl : state = last := by simpa [again] using whole
    simp [refused] at finished
  · exact going ends

/-- A fault that is no matter of the limit is at the first token with which the query became
hopeless. -/
theorem fault_site {limit : Nat} {body : List Token} {stop : Token} {fault : Fault}
    (ends : stop.kind = .stop) (inside : ∀ token ∈ body, token.kind ≠ .stop)
    (refused : parseTokens limit (body ++ [stop]) = .error fault) (some : fault ≠ .empty)
    (shallow : ∀ offset, fault ≠ .tooDeep limit offset) :
    ∃ front token behind, body ++ [stop] = front ++ token :: behind ∧
      fault.position? = .some token.offset ∧ Completable limit front ∧
      ∀ any, ¬ Completable any (front ++ [token]) := by
  have written : body ≠ [] := by
    rintro rfl
    rw [List.nil_append, parseTokens_stop ends] at refused
    cases refused
    exact some rfl
  rw [parseTokens_closed written ends inside] at refused
  -- Either the end is refused, behind all other tokens, or one of them.
  cases walked : State.walk limit {} body with
  | ok state =>
    rw [walked] at refused
    obtain ⟨lack, rfl⟩ := finish_error refused
    exact ⟨body, stop, [], rfl, rfl, completable_of_walk inside walked,
      hopeless_of_finish walked refused ends⟩
  | error other =>
    rw [walked] at refused
    cases refused
    obtain ⟨front, token, behind, state, rfl, reached, stuck⟩ := walk_error walked
    have before : ∀ other ∈ front, other.kind ≠ .stop := fun other member =>
      inside other (List.mem_append_left _ member)
    have going : token.kind ≠ .stop := inside token (by simp)
    exact ⟨front, token, behind ++ [stop], by simp, (step_blames stuck).position,
      completable_of_walk before reached, hopeless_of_step reached stuck (shallow _) going⟩

end Hopeless

section Reports

theorem offset_injective {tokens : List Token}
    (increasing : tokens.Pairwise fun first second => first.offset < second.offset) {i j : Nat}
    {token other : Token} (here : tokens[i]? = some token) (there : tokens[j]? = some other)
    (same : other.offset = token.offset) : j = i := by
  obtain ⟨inI, rfl⟩ := List.getElem?_eq_some_iff.mp here
  obtain ⟨inJ, rfl⟩ := List.getElem?_eq_some_iff.mp there
  rcases Nat.lt_trichotomy i j with before | equal | behind
  · have := List.pairwise_iff_getElem.mp increasing i j inI inJ before
    omega
  · exact equal.symm
  · have := List.pairwise_iff_getElem.mp increasing j i inJ inI behind
    omega

/-- The position of an error that is neither about an empty query nor about the limit is that of
one token. Some query goes on from the tokens in front of it, and none from those up to it. -/
theorem refused_at_first_hopeless_token {query : String} {limit : Nat} {tokens : List Token}
    {error : QueryError} (read : tokenize query = .ok tokens)
    (refused : parse query limit = .error error) (written : error.reason ≠ "empty query")
    (shallow : error.reason ≠ "query nesting exceeds maximum depth of " ++ toString limit) :
    ∃ i token, tokens[i]? = some token ∧ error.position? = some token.offset ∧
      (∀ j other, tokens[j]? = some other → other.offset = token.offset → j = i) ∧
      Completable limit (tokens.take i) ∧ ∀ any, ¬ Completable any (tokens.take (i + 1)) := by
  obtain ⟨fault, parsed, rfl⟩ := parse_error_tokens read refused
  have increasing := segmented_increasing (tokenize_eq_ok_iff.mp read)
  obtain ⟨body, stop, rfl, ends, inside⟩ := tokenize_closed read
  have notEmpty : fault ≠ .empty := by
    rintro rfl
    exact written rfl
  have notDeep (offset : Nat) : fault ≠ .tooDeep limit offset := by
    rintro rfl
    exact shallow rfl
  obtain ⟨front, token, behind, cut, position, viable, hopeless⟩ :=
    fault_site ends inside parsed notEmpty notDeep
  rw [cut] at increasing ⊢
  have here : (front ++ token :: behind)[front.length]? = some token := by simp
  refine ⟨front.length, token, here, position,
    fun j other there same => offset_injective increasing here there same, ?_, ?_⟩
  · simpa using viable
  · have upTo : (front ++ token :: behind).take (front.length + 1) = front ++ [token] := by
      rw [← List.singleton_append, ← List.append_assoc]
      exact List.take_left' (by simp)
    simpa [upTo] using hopeless

theorem bracket_in_group_is_hopeless :
    parse "(a ]" 1 = .error (.grammatical "expected ')' to close group, found ']'" (some 3)) ∧
      Completable 1 [⟨.openParen, 0⟩, ⟨.word "a", 1⟩] ∧
      ∀ any, ¬ Completable any [⟨.openParen, 0⟩, ⟨.word "a", 1⟩, ⟨.closeBracket, 3⟩] := by
  have read : tokenize "(a ]" =
      .ok [⟨.openParen, 0⟩, ⟨.word "a", 1⟩, ⟨.closeBracket, 3⟩, ⟨.stop, 4⟩] :=
    tokenize_of_found (by decide +kernel)
  have refused : parse "(a ]" 1 =
      .error (.grammatical "expected ')' to close group, found ']'" (some 3)) := by
    rw [parse_of_tokens read]
    rfl
  obtain ⟨i, token, -, position, only, viable, hopeless⟩ :=
    refused_at_first_hopeless_token read refused (by decide) (by decide)
  obtain rfl : 2 = i := only 2 ⟨.closeBracket, 3⟩ rfl (Option.some.inj position)
  exact ⟨refused, viable, hopeless⟩

end Reports

end BoolQuery.Parser
