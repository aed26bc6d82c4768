import BoolQuery.Condition
import BoolQuery.Token

/-! The grammar of queries as a relation between tokens and the condition they stand for.

    disjunction := conjunction [ [OR] disjunction ]
    conjunction := negation [ AND conjunction ]
    negation    := NOT negation | operand
    operand     := '(' disjunction ')' | WORD ':' (range | value) | value
    range       := ('[' | '{') bound TO bound (']' | '}')

A derivation has a budget of groups and NOTs inside one another. -/
namespace BoolQuery.Grammar
open Token

inductive Rule
  | disjunction
  | conjunction
  | negation
  | operand
  deriving DecidableEq, Repr

/-- A token that is a value. Outside of ranges a star is the value of that name. -/
inductive IsValue : Kind → String → Prop
  | word (text : String) : IsValue (.word text) text
  | phrase (text : String) : IsValue (.phrase text) text
  | star : IsValue .star "*"

inductive IsBound : Kind → Option String → Prop
  | word (text : String) : IsBound (.word text) (some text)
  | phrase (text : String) : IsBound (.phrase text) (some text)
  | star : IsBound .star none

inductive Opens : Kind → Bool → Prop
  | bracket : Opens .openBracket true
  | brace : Opens .openBrace false

inductive Closes : Kind → Bool → Prop
  | bracket : Closes .closeBracket true
  | brace : Closes .closeBrace false

/-- `Derives rule budget kinds condition`: by a rule the tokens stand for the condition, with at most
`budget` groups and NOTs inside one another. -/
inductive Derives : Rule → Nat → List Kind → Condition → Prop
  | value {budget : Nat} {kind : Kind} {value : String} (isValue : IsValue kind value) :
    Derives .operand budget [kind] (.term value)
  | holds {budget : Nat} {field : String} {kind : Kind} {value : String}
    (isValue : IsValue kind value) :
    Derives .operand budget [.word field, .colon, kind] (.holds field value)
  | range {budget : Nat} {field : String} {opening low high closing : Kind}
    {lower upper : Option String} {withLower withUpper : Bool} (opens : Opens opening withLower)
    (isLower : IsBound low lower) (isUpper : IsBound high upper) (closes : Closes closing withUpper) :
    Derives .operand budget [.word field, .colon, opening, low, .to, high, closing]
      (.range field lower upper withLower withUpper)
  | group {budget : Nat} {kinds : List Kind} {inner : Condition}
    (inside : Derives .disjunction budget kinds inner) :
    Derives .operand (budget + 1) (.openParen :: (kinds ++ [.closeParen])) inner
  | operand {budget : Nat} {kinds : List Kind} {condition : Condition}
    (plain : Derives .operand budget kinds condition) : Derives .negation budget kinds condition
  | not {budget : Nat} {kinds : List Kind} {inner : Condition}
    (inside : Derives .negation budget kinds inner) :
    Derives .negation (budget + 1) (.not :: kinds) (.not inner)
  | negation {budget : Nat} {kinds : List Kind} {condition : Condition}
    (plain : Derives .negation budget kinds condition) : Derives .conjunction budget kinds condition
  | and {budget : Nat} {before behind : List Kind} {left right : Condition}
    (first : Derives .negation budget before left)
    (others : Derives .conjunction budget behind right) :
    Derives .conjunction budget (before ++ .and :: behind) (.and left right)
  | conjunction {budget : Nat} {kinds : List Kind} {condition : Condition}
    (plain : Derives .conjunction budget kinds condition) :
    Derives .disjunction budget kinds condition
  | or {budget : Nat} {before behind : List Kind} {left right : Condition}
    (first : Derives .conjunction budget before left)
    (others : Derives .disjunction budget behind right) :
    Derives .disjunction budget (before ++ .or :: behind) (.or left right)
  | beside {budget : Nat} {before behind : List Kind} {left right : Condition}
    (first : Derives .conjunction budget before left)
    (others : Derives .disjunction budget behind right) :
    Derives .disjunction budget (before ++ behind) (.or left right)

theorem Derives.kinds_ne_nil {rule : Rule} {budget : Nat} {kinds : List Kind}
    {condition : Condition} (derived : Derives rule budget kinds condition) : kinds ≠ [] := by
  induction derived with
  | value | holds | range | group | not => simp
  | operand _ ih | negation _ ih | conjunction _ ih => exact ih
  | and | or => simp
  | beside _ _ ih _ => exact fun empty => ih (List.append_eq_nil_iff.mp empty).1

theorem Derives.weaken {rule : Rule} {budget more : Nat} {kinds : List Kind}
    {condition : Condition} (derived : Derives rule budget kinds condition) (enough : budget ≤ more) :
    Derives rule more kinds condition := by
  induction derived generalizing more with
  | value isValue => exact .value isValue
  | holds isValue => exact .holds isValue
  | range opens isLower isUpper closes => exact .range opens isLower isUpper closes
  | group _ ih =>
    obtain ⟨less, rfl⟩ : ∃ less, more = less + 1 := ⟨more - 1, by omega⟩
    exact .group (ih (by omega))
  | operand _ ih => exact .operand (ih enough)
  | not _ ih =>
    obtain ⟨less, rfl⟩ : ∃ less, more = less + 1 := ⟨more - 1, by omega⟩
    exact .not (ih (by omega))
  | negation _ ih => exact .negation (ih enough)
  | and _ _ first others => exact .and (first enough) (others enough)
  | conjunction _ ih => exact .conjunction (ih enough)
  | or _ _ first others => exact .or (first enough) (others enough)
  | beside _ _ first others => exact .beside (first enough) (others enough)

end BoolQuery.Grammar
