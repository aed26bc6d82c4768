import BoolQuery.Proofs.Outcomes
import BoolQuery.Proofs.Parser.Runs
import BoolQuery.Proofs.Token.Slices

/-! A query as a whole: its tokens are cut from the text, and the parser reads them up to the
stop at their end. -/
namespace BoolQuery
open Token

theorem tokenize_eq_ok_iff {query : String} {tokens : List Token} :
    tokenize query = .ok tokens ↔ Segmented 0 query.toList tokens := by
  rw [tokenize, reported_ok_iff]
  exact ⟨Lexer.segmented_of_tokenize, Lexer.tokenize_eq_ok_of_segmented⟩

theorem tokenize_of_found {query : String} {tokens : List Token}
    (found : (Lexer.tokenize query).toOption = some tokens) : tokenize query = .ok tokens := by
  cases read : Lexer.tokenize query with
  | ok others =>
    rw [read] at found
    obtain rfl : others = tokens := Option.some.inj found
    rw [tokenize, read]
    rfl
  | error cause =>
    rw [read] at found
    cases found

theorem tokenize_closed {query : String} {tokens : List Token}
    (read : tokenize query = .ok tokens) :
    ∃ body stop, tokens = body ++ [stop] ∧ stop.kind = .stop ∧ ∀ token ∈ body, token.kind ≠ .stop :=
  segmented_closed (tokenize_eq_ok_iff.mp read)

theorem parse_of_tokens {query : String} {tokens : List Token} (read : tokenize query = .ok tokens)
    (limit : Nat) :
    parse query limit = (Parser.parseTokens limit tokens).mapError QueryError.ofParser := by
  rw [parse, read]
  rfl

theorem parse_eq_ok_tokens {query : String} {limit : Nat} {condition : Condition}
    (accepted : parse query limit = .ok condition) :
    ∃ tokens, tokenize query = .ok tokens ∧ Parser.parseTokens limit tokens = .ok condition := by
  cases read : tokenize query with
  | error fault =>
    rw [parse, read] at accepted
    cases accepted
  | ok tokens =>
    rw [parse_of_tokens read, reported_ok_iff] at accepted
    exact ⟨tokens, rfl, accepted⟩

theorem parse_error_tokens {query : String} {limit : Nat} {tokens : List Token} {error : QueryError}
    (read : tokenize query = .ok tokens) (refused : parse query limit = .error error) :
    ∃ fault, Parser.parseTokens limit tokens = .error fault ∧ error = .ofParser fault := by
  rw [parse_of_tokens read, reported_error_iff] at refused
  exact refused

end BoolQuery
