import BoolQuery.Parser.Descent
import BoolQuery.Decimal

/-! The rules of the grammar as calls that share one account: a cursor on the tokens, and a count of the
groups and NOTs that are open. A rule counts up where it enters a group or NOT and down where it leaves
it, so the count is only right as long as every call hands back what it was given. Chains are read in
loops. Nothing about the calls says that they come to an end: they have so many steps to go, one for each
call or turn of a loop that is inside of another.

Each change of the account is noted together with the tokens that opened what is around it. -/
namespace BoolQuery.Parser.Cursor
open Token

section Accounts

structure Moment where
  position : Nat
  depth : Nat
  /-- The NOTs and parentheses whose NOT or group is open, innermost first. -/
  around : List Token

/-- What the rules share. -/
structure Account where
  position : Nat := 0
  depth : Nat := 0
  /-- The moments that are past, latest first. -/
  moments : List Moment := []

/-- Why calls break off. -/
inductive Halt
  | refused (fault : Fault)
  | miscount
  | unfinished

abbrev Calls := ExceptT Halt (StateM Account)

/-- The calls end with this outcome and leave this account behind. -/
def Ends {α : Type} (calls : Calls α) (before : Account) (outcome : Except Halt α)
    (after : Account) : Prop :=
  calls before = (outcome, after)

def Account.note (account : Account) (around : List Token) : Account :=
  { account with moments := ⟨account.position, account.depth, around⟩ :: account.moments }

/-- The account before anything is read. The start is a moment as well. -/
def Account.start : Account := ({} : Account).note []

/-- The cursor on the next one of so many tokens; behind the last it stays. -/
def Account.passed (account : Account) (count : Nat) (around : List Token) : Account :=
  if account.position < count then
    { account with position := account.position + 1 }.note around
  else account.note around

def Account.counting (account : Account) (depth : Nat) (around : List Token) : Account :=
  { account with depth }.note around

end Accounts

section Tokens

/-- The token at a position. Behind the last one there is a stop where that one starts. -/
def tokenAt (tokens : List Token) (position : Nat) : Token :=
  tokens[position]?.getD ⟨.stop, (tokens.getLast?.map Token.offset).getD 0⟩

/-- The name of a field, if one starts at the position: a word with a colon behind it. -/
def fieldAt? (tokens : List Token) (position : Nat) : Option String :=
  match (tokenAt tokens position).kind, (tokenAt tokens (position + 1)).kind with
  | .word name, .colon => some name
  | _, _ => none

def current (tokens : List Token) : Calls Token := do
  return tokenAt tokens (← get).position

def fieldName? (tokens : List Token) : Calls (Option String) := do
  return fieldAt? tokens (← get).position

def advance (tokens : List Token) (around : List Token) : Calls Unit :=
  modify (·.passed tokens.length around)

def enter (limit : Nat) (token : Token) (around : List Token) : Calls Unit := do
  let account ← get
  if account.depth + 1 < Width.full64 then do
    set (account.counting (account.depth + 1) (token :: around))
    if account.depth + 1 > limit then throw (.refused (.tooDeep limit token.offset))
    else return ()
  else throw .miscount

def leave (around : List Token) : Calls Unit := do
  let account ← get
  match account.depth with
  | depth + 1 => set (account.counting depth around)
  | 0 => throw .miscount

def lacking {α : Type} (lack : Lack) (token : Token) : Calls α :=
  throw (.refused (.unexpected lack token))

end Tokens

section Terms

variable (tokens around : List Token)

def readOne {α : Type} (meaning : Kind → Option α) (lack : Lack) : Calls α := do
  let token ← current tokens
  match meaning token.kind with
  | some value => do
    advance tokens around
    return value
  | none => lacking lack token

def readRange (field : String) : Calls Condition := do
  let opening ← current tokens
  advance tokens around
  let lower ← readOne tokens around bound? (.rangeBound field)
  readOne tokens around Descent.to? (.rangeTo field)
  let upper ← readOne tokens around bound? (.rangeBound field)
  let withUpper ← readOne tokens around Descent.close? (.rangeClose field)
  return .range field lower upper (opening.kind = .openBracket) withUpper

def readTerm : Calls Condition := do
  match ← fieldName? tokens with
  | none => do
    let value ← readOne tokens around value? .operand
    return .term value
  | some field => do
    advance tokens around
    advance tokens around
    let opening ← current tokens
    if opening.kind = .openBracket ∨ opening.kind = .openBrace then readRange tokens around field
    else do
      let value ← readOne tokens around value? (.fieldValue field)
      return .holds field value

end Terms

mutual

/-- Reads a chain of OR behind operands that are read already, latest first. Between two operands OR
may be left out. -/
def readOr (tokens : List Token) (limit : Nat) (around : List Token) (earlier : List Condition) :
    (steps : Nat) → Calls Condition
  | 0 => throw .unfinished
  | steps + 1 => do
    let operand ← readAnd tokens limit around [] steps
    let token ← current tokens
    if token.kind = .or then do
      advance tokens around
      readOr tokens limit around (operand :: earlier) steps
    else if Descent.closes token.kind then return Condition.joinOnto .or operand earlier
    else readOr tokens limit around (operand :: earlier) steps

def readAnd (tokens : List Token) (limit : Nat) (around : List Token) (earlier : List Condition) :
    (steps : Nat) → Calls Condition
  | 0 => throw .unfinished
  | steps + 1 => do
    let operand ← readNot tokens limit around steps
    let token ← current tokens
    if token.kind = .and then do
      advance tokens around
      readAnd tokens limit around (operand :: earlier) steps
    else return Condition.joinOnto .and operand earlier

def readNot (tokens : List Token) (limit : Nat) (around : List Token) :
    (steps : Nat) → Calls Condition
  | 0 => throw .unfinished
  | steps + 1 => do
    let token ← current tokens
    if token.kind = .not then do
      advance tokens around
      enter limit token around
      let inner ← readNot tokens limit (token :: around) steps
      leave around
      return .not inner
    else readPrimary tokens limit around steps

def readPrimary (tokens : List Token) (limit : Nat) (around : List Token) :
    (steps : Nat) → Calls Condition
  | 0 => throw .unfinished
  | steps + 1 => do
    let token ← current tokens
    if token.kind = .openParen then do
      advance tokens around
      enter limit token around
      let inner ← readOr tokens limit (token :: around) [] steps
      leave around
      let closing ← current tokens
      if closing.kind = .closeParen then do
        advance tokens around
        return inner
      else lacking .groupClose closing
    else readTerm tokens around

end

def parseTokens (limit : Nat) (tokens : List Token) (steps : Nat) : Calls Condition := do
  let first ← current tokens
  if first.kind = .stop then throw (.refused .empty)
  else do
    let condition ← readOr tokens limit [] [] steps
    let token ← current tokens
    if token.kind = .stop then return condition
    else throw (.refused (.trailing token.offset))

end BoolQuery.Parser.Cursor
