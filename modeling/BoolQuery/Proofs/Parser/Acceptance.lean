import BoolQuery.Proofs.Parser.Derivations
import BoolQuery.Proofs.Parser.OpenLevels
import BoolQuery.Proofs.Query

/-! The parser accepts what the grammar derives within the limit, with the condition that it derives.
The parser being a function, the grammar derives no more than one condition from a list of kinds. -/
namespace BoolQuery.Parser
open Token Grammar

-- A derivation within the limit leads from the start to where the query may end.
theorem walk_of_derives {limit budget : Nat} {tokens : List Token} {condition : Condition}
    (derived : Derives .disjunction budget (tokens.map Token.kind) condition)
    (enough : budget ≤ limit) :
    ∃ last, State.walk limit {} tokens = .ok last ∧
      ∀ stop, last.finish stop = .ok condition := by
  have ready : Ready .disjunction {} := ⟨rfl, rfl, rfl⟩
  obtain ⟨last, reads, alternatives, conjuncts, operand, rfl, settled⟩ :=
    derives_reads derived ready (by simpa using enough)
  have awaits : last.settle.awaiting = .operator operand := by rw [settled]
  have outermost : last.outer = [] := by rw [← settle_outer, settled]
  refine ⟨last, reads tokens rfl, fun stop => ?_⟩
  rw [finish_operator awaits outermost, settled]
  simp [Level.condition, Level.conjunction]

theorem parseTokens_iff_derives {limit : Nat} {body : List Token} {stop : Token}
    {condition : Condition} (ends : stop.kind = .stop)
    (inside : ∀ token ∈ body, token.kind ≠ .stop) :
    parseTokens limit (body ++ [stop]) = .ok condition ↔
      Derives .disjunction limit (body.map Token.kind) condition := by
  rw [parseTokens_eq_ok_iff ends inside]
  constructor
  · rintro ⟨last, walked, finished⟩
    exact derives_of_walk walked finished
  · intro derived
    obtain ⟨last, walked, finished⟩ := walk_of_derives derived (Nat.le_refl limit)
    exact ⟨last, walked, finished stop⟩

/-- No list of kinds stands for two conditions, whatever the budgets. -/
theorem derives_unique {budget other : Nat} {kinds : List Kind} {first second : Condition}
    (one : Derives .disjunction budget kinds first)
    (two : Derives .disjunction other kinds second) : first = second := by
  have spelled : (kinds.map (Token.mk · 0)).map Token.kind = kinds := by
    simp [Function.comp_def]
  rw [← spelled] at one two
  -- Both derivations walk from the start over the same tokens, under one large limit.
  obtain ⟨last, walked, finished⟩ := walk_of_derives one (Nat.le_max_left budget other)
  obtain ⟨same, again, ended⟩ := walk_of_derives two (Nat.le_max_right budget other)
  obtain rfl : last = same := by simpa [walked] using again
  simpa [finished ⟨.stop, 0⟩] using ended ⟨.stop, 0⟩

/-- Whether a query is accepted, and as which condition, is a question of the grammar alone. -/
theorem parse_iff_derives {query : String} {limit : Nat} {condition : Condition} :
    parse query limit = .ok condition ↔
      ∃ body stop, tokenize query = .ok (body ++ [stop]) ∧ stop.kind = .stop ∧
        Derives .disjunction limit (body.map Token.kind) condition := by
  constructor
  · intro accepted
    obtain ⟨tokens, read, parsed⟩ := parse_eq_ok_tokens accepted
    obtain ⟨body, stop, rfl, ends, inside⟩ := tokenize_closed read
    exact ⟨body, stop, read, ends, (parseTokens_iff_derives ends inside).mp parsed⟩
  · rintro ⟨body, stop, read, ends, derived⟩
    obtain ⟨others, last, same, -, inside⟩ := tokenize_closed read
    obtain ⟨rfl, -⟩ := List.append_inj' same rfl
    rw [parse_of_tokens read, (parseTokens_iff_derives ends inside).mpr derived]
    rfl

/-- The parser accepts exactly what the grammar derives within the limit, as the condition derived,
and no tokens derive two conditions. -/
theorem parse_exactly_derives :
    (∀ query limit condition, parse query limit = .ok condition ↔
      ∃ body stop, tokenize query = .ok (body ++ [stop]) ∧ stop.kind = .stop ∧
        Derives .disjunction limit (body.map Token.kind) condition) ∧
    ∀ kinds budget other first second, Derives .disjunction budget kinds first →
      Derives .disjunction other kinds second → first = second :=
  ⟨fun _ _ _ => parse_iff_derives, fun _ _ _ _ _ => derives_unique⟩

theorem adjacent_operands_are_alternatives :
    parse "a f:b AND NOT c" 1 =
        .ok (.or (.term "a") (.and (.holds "f" "b") (.not (.term "c")))) ∧
      ∀ budget other, Derives .disjunction budget
        [.word "a", .word "f", .colon, .word "b", .and, .not, .word "c"] other →
        other = .or (.term "a") (.and (.holds "f" "b") (.not (.term "c"))) := by
  have read : tokenize "a f:b AND NOT c" = .ok ([⟨.word "a", 0⟩, ⟨.word "f", 2⟩, ⟨.colon, 3⟩,
      ⟨.word "b", 4⟩, ⟨.and, 6⟩, ⟨.not, 10⟩, ⟨.word "c", 14⟩] ++ [⟨.stop, 15⟩]) :=
    tokenize_of_found (by decide +kernel)
  have first : Derives .conjunction 1 [.word "a"] (.term "a") :=
    .negation (.operand (.value (.word "a")))
  have named : Derives .negation 1 [.word "f", .colon, .word "b"] (.holds "f" "b") :=
    .operand (.holds (.word "b"))
  have negated : Derives .negation 1 [.not, .word "c"] (.not (.term "c")) :=
    .not (.operand (.value (.word "c")))
  have derived : Derives .disjunction 1
      ([.word "a"] ++ ([.word "f", .colon, .word "b"] ++ .and :: [.not, .word "c"]))
      (.or (.term "a") (.and (.holds "f" "b") (.not (.term "c")))) :=
    .beside first (.conjunction (.and named (.negation negated)))
  exact ⟨(parse_exactly_derives.1 _ _ _).mpr ⟨_, _, read, rfl, derived⟩,
    fun budget other another => parse_exactly_derives.2 _ budget 1 other _ another derived⟩

end BoolQuery.Parser
