import BoolQuery.Proofs.Condition.Chain
import BoolQuery.Proofs.Condition.Derivation
import BoolQuery.Proofs.Parser.Acceptance

/-! Accepted queries in groups of their own, joined to one query. The tokens of a text do not depend
on where it stands, as long as a delimiter or the end comes behind it; and what a query derives is,
in a group, an operand like any other. -/
namespace BoolQuery.Token
open Lexer Text

section Placement

theorem cuts_blank {gap : List Char} (blank : ∀ c ∈ gap, isBlank c) : Cuts Anything gap [] := by
  induction gap with
  | nil => exact cuts_nil
  | cons c rest ih =>
    have others := ih fun d member => blank d (List.mem_cons_of_mem c member)
    exact cuts_closed_append (cuts_gap (blank c List.mem_cons_self)) others

-- Where a text ends and a delimiter follows, its last word is as long as it was.
theorem endsBefore_append {slice rest behind : List Char} (maximal : endsBefore slice rest)
    (ends : EndsWord behind) : endsBefore slice (rest ++ behind) := by
  cases slice with
  | nil => trivial
  | cons first slice =>
    cases rest with
    | cons next rest => exact maximal
    | nil =>
      cases behind with
      | nil => trivial
      | cons next behind =>
        right
        exact ends next rfl

/-- A text that is cut into tokens is cut into the same kinds wherever it stands in front of a
delimiter or at the end. -/
theorem cuts_of_segmented {offset : Nat} {text : List Char} {tokens : List Token}
    (segmented : Segmented offset text tokens) :
    ∃ body stop, tokens = body ++ [stop] ∧ Cuts EndsWord text (body.map Token.kind) := by
  induction segmented with
  | stop blank => exact ⟨[], _, rfl, cuts_weaken (cuts_blank blank)⟩
  | token blank spells maximal _ ih =>
    obtain ⟨body, stop, rfl, others⟩ := ih
    refine ⟨_ :: body, stop, rfl, ?_⟩
    rw [List.append_assoc]
    exact cuts_closed_append (cuts_blank blank)
      (cuts_append (cuts_slice spells) others fun _ ends => endsBefore_append maximal ends)

end Placement

end BoolQuery.Token

namespace BoolQuery.Parser
open Token Grammar Lexer

section Operands

variable {query : String} {limit : Nat} {kinds : List Kind} {condition : Condition}

theorem cuts_of_accepted (accepted : parse query limit = .ok condition) :
    ∃ kinds, Cuts EndsWord query.toList kinds ∧ Derives .disjunction limit kinds condition := by
  obtain ⟨body, stop, read, -, derived⟩ := parse_iff_derives.mp accepted
  obtain ⟨others, last, same, cut⟩ := cuts_of_segmented (tokenize_eq_ok_iff.mp read)
  obtain ⟨rfl, -⟩ := List.append_inj' same rfl
  exact ⟨_, cut, derived⟩

theorem accepted_of_cuts (cut : Cuts EndsWord query.toList kinds)
    (derived : Derives .disjunction limit kinds condition) : parse query limit = .ok condition := by
  obtain ⟨body, stop, read, ends, rfl⟩ := tokenize_of_cuts cut
  exact parse_iff_derives.mpr ⟨body, stop, read, ends, derived⟩

/-- An accepted query is an operand when parentheses stand around it. -/
theorem operand_of_accepted (accepted : parse query limit = .ok condition) :
    ∃ kinds, Cuts EndsWord ("(" ++ query ++ ")").toList kinds ∧
      Derives .operand (limit + 1) kinds condition := by
  obtain ⟨kinds, cut, derived⟩ := cuts_of_accepted accepted
  exact ⟨_, Condition.group_cuts true cut, .group derived⟩

theorem negation_of_accepted (accepted : parse query limit = .ok condition) :
    parse ("NOT (" ++ query ++ ")") (limit + 2) = .ok (.not condition) := by
  obtain ⟨kinds, cut, derived⟩ := operand_of_accepted accepted
  have text : "NOT (" ++ query ++ ")" = "NOT " ++ ("(" ++ query ++ ")") := by
    have opening : "NOT (" = "NOT " ++ "(" := by decide
    rw [opening, String.append_assoc, String.append_assoc, String.append_assoc]
  have negated : Cuts EndsWord ("NOT " ++ ("(" ++ query ++ ")")).toList (.not :: kinds) := by
    rw [String.toList_append]
    exact cuts_closed_append Condition.not_cuts cut
  rw [text]
  exact accepted_of_cuts negated (.conjunction (.negation (.not (.operand derived))))

end Operands

section Chains

/-- A query that is accepted under a limit, and its condition. -/
structure Accepted (limit : Nat) where
  query : String
  condition : Condition
  accepted : parse query limit = .ok condition

variable {limit : Nat}

/-- Queries in groups of their own. Each but the first has its separator in front of it. -/
def combined (first : Accepted limit) : List (String × Accepted limit) → String
  | [] => "(" ++ first.query ++ ")"
  | (separator, next) :: others => "(" ++ first.query ++ ")" ++ separator ++ combined next others

/-- The conditions of combined queries. -/
def operands (first : Accepted limit) (others : List (String × Accepted limit)) : List Condition :=
  first.condition :: others.map fun other => other.2.condition

/-- What a separator does: an operand in front of it and a chain behind it are the longer chain. -/
structure Joins (place : Rule) (join : Condition → Condition → Condition) (separator : String) :
    Prop where
  apart : ∀ rest, EndsWord (separator.toList ++ rest)
  joined : ∃ between, Cuts Anything separator.toList between ∧
    ∀ budget before behind left right, Derives .operand budget before left →
      Derives place budget behind right →
      Derives place budget (before ++ (between ++ behind)) (join left right)

theorem joins_blank : Joins .disjunction .or " " where
  apart := ends_word_at (by decide)
  joined := by
    refine ⟨[], cuts_gap (c := ' ') rfl, ?_⟩
    intro budget before behind left right first others
    exact .beside (derives_operand .conjunction first) others

theorem joins_or : Joins .disjunction .or " OR " where
  apart := fun rest => ends_word_at (by decide) _
  joined := by
    refine ⟨[.or], Condition.or_cuts, ?_⟩
    intro budget before behind left right first others
    exact .or (derives_operand .conjunction first) others

theorem joins_and : Joins .conjunction .and " AND " where
  apart := fun rest => ends_word_at (by decide) _
  joined := by
    refine ⟨[.and], Condition.and_cuts, ?_⟩
    intro budget before behind left right first others
    exact .and (derives_operand .negation first) others

/-- Combined queries are one chain of their conditions, one level deeper than the queries. -/
theorem combined_derives {place : Rule} {join : Condition → Condition → Condition}
    (first : Accepted limit) (others : List (String × Accepted limit))
    (joins : ∀ other ∈ others, Joins place join other.1) :
    ∃ kinds whole, Cuts EndsWord (combined first others).toList kinds ∧
      Condition.chain? join (operands first others) = some whole ∧
      Derives place (limit + 1) kinds whole := by
  obtain ⟨before, cut, derived⟩ := operand_of_accepted first.accepted
  -- Chains lean to the right, so what is behind a separator is a chain already.
  induction others generalizing first before with
  | nil => exact ⟨before, first.condition, cut, rfl, derives_operand place derived⟩
  | cons other others ih =>
    obtain ⟨separator, next⟩ := other
    obtain ⟨apart, between, cutBetween, joined⟩ := joins _ List.mem_cons_self
    have onward (other : String × Accepted limit) (member : other ∈ others) :
        Joins place join other.1 := joins other (List.mem_cons_of_mem _ member)
    obtain ⟨front, cutNext, nextDerived⟩ := operand_of_accepted next.accepted
    obtain ⟨behind, chain, cutBehind, chained, rest⟩ := ih next onward front cutNext nextDerived
    refine ⟨before ++ (between ++ behind), join first.condition chain, ?_, Condition.chain_cons chained _,
      joined _ _ _ _ _ derived rest⟩
    rw [combined, String.toList_append, String.toList_append, List.append_assoc]
    apply cuts_append cut (cuts_closed_append cutBetween cutBehind)
    intro rest _
    rw [List.append_assoc]
    exact apart _

/-- Accepted queries combine as texts. In groups of their own, with blanks or ORs between them, they
are the chain that holds when one of them does, and with ANDs the chain that holds when all do,
under a limit of one more. Behind a NOT an accepted query takes one more again. -/
theorem accepted_queries_combine (first : Accepted limit) (others : List (String × Accepted limit)) :
    ((∀ other ∈ others, other.1 = " " ∨ other.1 = " OR ") →
      ∃ whole, Condition.anyOf? (operands first others) = some whole ∧
        parse (combined first others) (limit + 1) = .ok whole) ∧
    ((∀ other ∈ others, other.1 = " AND ") →
      ∃ whole, Condition.allOf? (operands first others) = some whole ∧
        parse (combined first others) (limit + 1) = .ok whole) ∧
    parse ("NOT (" ++ first.query ++ ")") (limit + 2) = .ok (.not first.condition) := by
  refine ⟨?alternatives, ?conjuncts, ?negation⟩
  case alternatives =>
    intro separators
    have joins (other : String × Accepted limit) (member : other ∈ others) :
        Joins .disjunction .or other.1 := by
      rcases separators other member with blank | or
      · rw [blank]
        exact joins_blank
      · rw [or]
        exact joins_or
    obtain ⟨kinds, whole, cut, chained, derived⟩ := combined_derives first others joins
    exact ⟨whole, chained, accepted_of_cuts cut derived⟩
  case conjuncts =>
    intro separators
    have joins (other : String × Accepted limit) (member : other ∈ others) :
        Joins .conjunction .and other.1 := by
      rw [separators other member]
      exact joins_and
    obtain ⟨kinds, whole, cut, chained, derived⟩ := combined_derives first others joins
    exact ⟨whole, chained, accepted_of_cuts cut (.conjunction derived)⟩
  case negation =>
    exact negation_of_accepted first.accepted

theorem brackets_stay_in_their_groups :
    parse "(a:\") OR (\") (NOT b\\)) OR (n:[1 TO *\x7d c)" 2 =
        .ok (.or (.holds "a" ") OR (") (.or (.not (.term "b)"))
          (.or (.range "n" (some "1") none true false) (.term "c")))) ∧
      parse "(a:\") OR (\") AND (n:[1 TO *\x7d c)" 2 =
        .ok (.and (.holds "a" ") OR (") (.or (.range "n" (some "1") none true false) (.term "c"))) ∧
      parse "NOT (a:\") OR (\")" 3 = .ok (.not (.holds "a" ") OR (")) := by
  have first : parse "a:\") OR (\"" 1 = .ok (.holds "a" ") OR (") := by
    have read : tokenize "a:\") OR (\"" = .ok [⟨.word "a", 0⟩, ⟨.colon, 1⟩, ⟨.phrase ") OR (", 2⟩,
        ⟨.stop, 10⟩] := tokenize_of_found (by decide +kernel)
    rw [parse_of_tokens read]
    rfl
  have second : parse "NOT b\\)" 1 = .ok (.not (.term "b)")) := by
    have read : tokenize "NOT b\\)" = .ok [⟨.not, 0⟩, ⟨.word "b)", 4⟩, ⟨.stop, 7⟩] :=
      tokenize_of_found (by decide +kernel)
    rw [parse_of_tokens read]
    rfl
  have third : parse "n:[1 TO *\x7d c" 1 =
      .ok (.or (.range "n" (some "1") none true false) (.term "c")) := by
    have read : tokenize "n:[1 TO *\x7d c" = .ok [⟨.word "n", 0⟩, ⟨.colon, 1⟩, ⟨.openBracket, 2⟩,
        ⟨.word "1", 3⟩, ⟨.to, 5⟩, ⟨.star, 8⟩, ⟨.closeBrace, 9⟩, ⟨.word "c", 11⟩, ⟨.stop, 12⟩] :=
      tokenize_of_found (by decide +kernel)
    rw [parse_of_tokens read]
    rfl
  obtain ⟨alternatives, -, negation⟩ := accepted_queries_combine ⟨_, _, first⟩
    [(" ", ⟨_, _, second⟩), (" OR ", ⟨_, _, third⟩)]
  obtain ⟨-, conjuncts, -⟩ := accepted_queries_combine ⟨_, _, first⟩ [(" AND ", ⟨_, _, third⟩)]
  obtain ⟨some, chained, one⟩ := alternatives (by simp)
  obtain ⟨every, joined, all⟩ := conjuncts (by simp)
  cases chained
  cases joined
  exact ⟨one, all, negation⟩

end Chains

end BoolQuery.Parser
