import BoolQuery.Condition
import BoolQuery.QueryError
import BoolQuery.Token.Lexer

/-! Conditions from tokens. NOT binds tighter than AND, and AND tighter than OR; between two
operands that nothing joins, OR is meant.

The parser reads one token at a time. Its state holds the operands of every group that is open,
how many groups and NOTs are open, and what the query has to go on with. -/
namespace BoolQuery.Parser
open Token

inductive Lack
  | operand
  | fieldValue (field : String)
  | rangeBound (field : String)
  | rangeTo (field : String)
  | rangeClose (field : String)
  | groupClose
  deriving DecidableEq, Repr

inductive Fault
  | empty
  /-- A complete query goes on at this byte with a closing token. -/
  | trailing (offset : Nat)
  | tooDeep (limit offset : Nat)
  | unexpected (lack : Lack) (found : Token)
  deriving DecidableEq, Repr

def Lack.message : Lack → String
  | .operand => "expected a term"
  | .fieldValue field => "expected a value after '" ++ field ++ ":'"
  | .rangeBound field => "expected a range bound for '" ++ field ++ "'"
  | .rangeTo field => "expected 'TO' in range for '" ++ field ++ "'"
  | .rangeClose field => "expected ']' or '\x7d' to close range for '" ++ field ++ "'"
  | .groupClose => "expected ')' to close group"

def Fault.reason : Fault → String
  | .empty => "empty query"
  | .trailing _ => "unexpected trailing input"
  | .tooDeep limit _ => "query nesting exceeds maximum depth of " ++ toString limit
  | .unexpected lack found => lack.message ++ ", found " ++ found.kind.describe

def Fault.position? : Fault → Option Nat
  | .empty => none
  | .trailing offset | .tooDeep _ offset => some offset
  | .unexpected _ found => some found.offset

inductive Awaiting
  | operand
  /-- The word is a field name if a colon follows, else a value. -/
  | colon (word : String)
  | fieldValue (field : String)
  | lowerBound (field : String) (withLower : Bool)
  | rangeTo (field : String) (withLower : Bool) (lower : Option String)
  | upperBound (field : String) (withLower : Bool) (lower : Option String)
  | rangeClose (field : String) (withLower : Bool) (lower upper : Option String)
  | operator (operand : Condition)
  deriving DecidableEq, Repr

/-- The operands of one open group, or of the whole query, as far as they are complete. -/
structure Level where
  /-- Operands of OR, latest first. -/
  alternatives : List Condition := []
  /-- Operands of the AND chain that is not complete, latest first. -/
  conjuncts : List Condition := []
  negations : Nat := 0
  deriving DecidableEq, Repr

def Level.conjunction (level : Level) (last : Condition) : Condition :=
  Condition.joinOnto .and last level.conjuncts

def Level.condition (level : Level) (last : Condition) : Condition :=
  Condition.joinOnto .or (level.conjunction last) level.alternatives

structure State where
  level : Level := {}
  outer : List Level := []
  depth : Nat := 0
  awaiting : Awaiting := .operand
  deriving DecidableEq, Repr

def State.leaveNegations (state : State) : State :=
  { state with
    level := { state.level with negations := 0 }
    depth := state.depth - state.level.negations }

def State.negate (state : State) (operand : Condition) : Condition :=
  operand.negated state.level.negations

def State.complete (state : State) (operand : Condition) : State :=
  { state.leaveNegations with awaiting := .operator (state.negate operand) }

def State.enter (limit : Nat) (state : State) (token : Token) : Except Fault State :=
  if state.depth + 1 > limit then .error (.tooDeep limit token.offset)
  else .ok { state with depth := state.depth + 1 }

def State.stepOperand (limit : Nat) (state : State) (token : Token) : Except Fault State :=
  match token.kind with
  | .not => do
    let entered ← state.enter limit token
    return { entered with
      level := { entered.level with negations := entered.level.negations + 1 }
      awaiting := .operand }
  | .openParen => do
    let entered ← state.enter limit token
    return { entered with
      level := {}
      outer := entered.level :: entered.outer
      awaiting := .operand }
  | .word text => .ok { state with awaiting := .colon text }
  | .phrase text => .ok (state.complete (.term text))
  | .star => .ok (state.complete (.term "*"))
  | _ => .error (.unexpected .operand token)

def State.stepClose (state : State) (operand : Condition) (token : Token) : Except Fault State :=
  match state.outer with
  | [] => .error (.trailing token.offset)
  | level :: outer =>
    -- only a parenthesis closes a group
    if token.kind = .closeParen then
      let inner := state.level.condition operand
      .ok (State.complete { state with level, outer, depth := state.depth - 1 } inner)
    else .error (.unexpected .groupClose token)

/-- Reads a token behind a complete operand. What is neither an operator nor a closing token starts
another operand of OR. -/
def State.stepOperator (limit : Nat) (state : State) (operand : Condition) (token : Token) :
    Except Fault State :=
  let alternative : State :=
    { state with
      level := { alternatives := state.level.conjunction operand :: state.level.alternatives }
      awaiting := .operand }
  match token.kind with
  | .and => .ok { state with
      level := { state.level with conjuncts := operand :: state.level.conjuncts }
      awaiting := .operand }
  | .or => .ok alternative
  | .closeParen | .closeBracket | .closeBrace => state.stepClose operand token
  | _ => alternative.stepOperand limit token

def value? : Kind → Option String
  | .word text | .phrase text => some text
  | .star => some "*"
  | _ => none

def bound? : Kind → Option (Option String)
  | .word text | .phrase text => some (some text)
  | .star => some none
  | _ => none

def State.step (limit : Nat) (state : State) (token : Token) : Except Fault State :=
  let next (awaiting : Awaiting) : Except Fault State := .ok { state with awaiting }
  match state.awaiting with
  | .operand => state.stepOperand limit token
  | .operator operand => state.stepOperator limit operand token
  | .colon word =>
    if token.kind = .colon then next (.fieldValue word)
    -- the word was a value, so this token stands behind a complete operand
    else state.leaveNegations.stepOperator limit (state.negate (.term word)) token
  | .fieldValue field =>
    match token.kind, value? token.kind with
    | .openBracket, _ => next (.lowerBound field true)
    | .openBrace, _ => next (.lowerBound field false)
    | _, some value => .ok (state.complete (.holds field value))
    | _, none => .error (.unexpected (.fieldValue field) token)
  | .lowerBound field withLower =>
    match bound? token.kind with
    | some lower => next (.rangeTo field withLower lower)
    | none => .error (.unexpected (.rangeBound field) token)
  | .rangeTo field withLower lower =>
    if token.kind = .to then next (.upperBound field withLower lower)
    else .error (.unexpected (.rangeTo field) token)
  | .upperBound field withLower lower =>
    match bound? token.kind with
    | some upper => next (.rangeClose field withLower lower upper)
    | none => .error (.unexpected (.rangeBound field) token)
  | .rangeClose field withLower lower upper =>
    match token.kind with
    | .closeBracket => .ok (state.complete (.range field lower upper withLower true))
    | .closeBrace => .ok (state.complete (.range field lower upper withLower false))
    | _ => .error (.unexpected (.rangeClose field) token)

def State.conclude (state : State) (operand : Condition) (stop : Token) : Except Fault Condition :=
  match state.outer with
  | [] => .ok (state.level.condition operand)
  | _ :: _ => .error (.unexpected .groupClose stop)

def State.finish (state : State) (stop : Token) : Except Fault Condition :=
  match state.awaiting with
  | .operator operand => state.conclude operand stop
  | .colon word => state.leaveNegations.conclude (state.negate (.term word)) stop
  | .operand => .error (.unexpected .operand stop)
  | .fieldValue field => .error (.unexpected (.fieldValue field) stop)
  | .lowerBound field _ | .upperBound field _ _ => .error (.unexpected (.rangeBound field) stop)
  | .rangeTo field _ _ => .error (.unexpected (.rangeTo field) stop)
  | .rangeClose field _ _ _ => .error (.unexpected (.rangeClose field) stop)

/-- Reads tokens up to the first `stop`. Tokens without one end where the last of them starts,
which is at `last`. -/
def State.run (limit : Nat) (state : State) (last : Nat) : List Token → Except Fault Condition
  | [] => state.finish ⟨.stop, last⟩
  | token :: rest =>
    if token.kind = .stop then state.finish token
    else match state.step limit token with
      | .ok state => state.run limit token.offset rest
      | .error fault => .error fault

/-- The condition that tokens stand for, with at most `limit` groups and NOTs open at a time. -/
def parseTokens (limit : Nat) (tokens : List Token) : Except Fault Condition :=
  match tokens with
  | [] => .error .empty
  | first :: _ => if first.kind = .stop then .error .empty else State.run limit {} 0 tokens

end BoolQuery.Parser

namespace BoolQuery

namespace QueryError

def ofLexer : Lexer.Fault → QueryError
  | .unterminatedPhrase start => .lexical "unterminated quoted string" start
  | .danglingEscape mark => .lexical "trailing escape character" mark

def ofParser (fault : Parser.Fault) : QueryError := .grammatical fault.reason fault.position?

end QueryError

def defaultLimit : Nat := 64

def tokenize (query : String) : Except QueryError (List Token) :=
  (Lexer.tokenize query).mapError QueryError.ofLexer

/-- The condition that a query stands for, with at most `limit` groups and NOTs open at a time. -/
def parse (query : String) (limit : Nat := defaultLimit) : Except QueryError Condition := do
  let tokens ← tokenize query
  (Parser.parseTokens limit tokens).mapError QueryError.ofParser

end BoolQuery
