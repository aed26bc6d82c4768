import BoolQuery.Parser

/-! Recursive descent: the grammar read rule by rule. Chains lean to the right because the right side
of an operator is read by the rule of the whole chain. The machine of the parser keeps the same
account in lists of its own and has to come to the same condition or the same fault. -/
namespace BoolQuery.Parser.Descent
open Token

/-- What was read in front of the rest of some tokens. -/
structure Reading (α : Type) (tokens : List Token) where
  value : α
  rest : List Token
  shorter : rest.length < tokens.length

section Terms

def lacking (lack : Lack) : List Token → Fault
  | token :: _ => .unexpected lack token
  | [] => .unexpected lack ⟨.stop, 0⟩

def readOne {α : Type} (meaning : Kind → Option α) (lack : Lack) :
    (tokens : List Token) → Except Fault (Reading α tokens)
  | [] => .error (lacking lack [])
  | token :: rest =>
    match meaning token.kind with
    | some value => .ok ⟨value, rest, by simp⟩
    | none => .error (.unexpected lack token)

def close? : Kind → Option Bool
  | .closeBracket => some true
  | .closeBrace => some false
  | _ => none

def to? : Kind → Option Unit
  | .to => some ()
  | _ => none

def readRange (field : String) (withLower : Bool) (tokens : List Token) :
    Except Fault (Reading Condition tokens) := do
  let lower ← readOne bound? (.rangeBound field) tokens
  let between ← readOne to? (.rangeTo field) lower.rest
  let upper ← readOne bound? (.rangeBound field) between.rest
  let closing ← readOne close? (.rangeClose field) upper.rest
  return ⟨.range field lower.value upper.value withLower closing.value, closing.rest, by
    have := lower.shorter
    have := between.shorter
    have := upper.shorter
    have := closing.shorter
    omega⟩

def readScoped (field : String) : (tokens : List Token) → Except Fault (Reading Condition tokens)
  | ⟨.openBracket, _⟩ :: rest => do
    let range ← readRange field true rest
    return ⟨range.value, range.rest, Nat.lt_trans range.shorter (by simp)⟩
  | ⟨.openBrace, _⟩ :: rest => do
    let range ← readRange field false rest
    return ⟨range.value, range.rest, Nat.lt_trans range.shorter (by simp)⟩
  | tokens => do
    let value ← readOne value? (.fieldValue field) tokens
    return ⟨.holds field value.value, value.rest, value.shorter⟩

def readTerm : (tokens : List Token) → Except Fault (Reading Condition tokens)
  | ⟨.word field, _⟩ :: ⟨.colon, _⟩ :: rest => do
    let behind ← readScoped field rest
    return ⟨behind.value, behind.rest, by
      have := behind.shorter
      simp only [List.length_cons]
      omega⟩
  | tokens => do
    let value ← readOne value? .operand tokens
    return ⟨.term value.value, value.rest, value.shorter⟩

end Terms

section Rules

def enter (limit depth : Nat) (token : Token) : Except Fault Unit :=
  if depth + 1 > limit then .error (.tooDeep limit token.offset) else .ok ()

def closes : Kind → Bool
  | .closeParen | .closeBracket | .closeBrace | .stop => true
  | _ => false

mutual

/-- Reads a chain of OR. Between two operands OR may be left out. -/
def readOr (limit depth : Nat) (tokens : List Token) : Except Fault (Reading Condition tokens) := do
  let left ← readAnd limit depth tokens
  match behind : left.rest with
  | [] => return left
  | token :: rest =>
    if closes token.kind then return left
    else if token.kind = .or then do
      let right ← readOr limit depth rest
      return ⟨.or left.value right.value, right.rest, by
        have := left.shorter
        have := right.shorter
        simp [behind] at *
        omega⟩
    else do
      let right ← readOr limit depth (token :: rest)
      return ⟨.or left.value right.value, right.rest, by
        have := left.shorter
        have := right.shorter
        simp [behind] at *
        omega⟩
termination_by (tokens.length, 3)
decreasing_by
  · exact Prod.Lex.right _ (by omega)
  · apply Prod.Lex.left
    have := left.shorter
    simp [behind] at *
    omega
  · apply Prod.Lex.left
    have := left.shorter
    simp [behind] at *
    omega

def readAnd (limit depth : Nat) (tokens : List Token) : Except Fault (Reading Condition tokens) := do
  let left ← readNot limit depth tokens
  match behind : left.rest with
  | [] => return left
  | token :: rest =>
    if token.kind = .and then do
      let right ← readAnd limit depth rest
      return ⟨.and left.value right.value, right.rest, by
        have := left.shorter
        have := right.shorter
        simp [behind] at *
        omega⟩
    else return left
termination_by (tokens.length, 2)
decreasing_by
  · exact Prod.Lex.right _ (by omega)
  · apply Prod.Lex.left
    have := left.shorter
    simp [behind] at *
    omega

def readNot (limit depth : Nat) (tokens : List Token) : Except Fault (Reading Condition tokens) :=
  match tokens with
  | [] => .error (lacking .operand [])
  | token :: rest =>
    if token.kind = .not then do
      enter limit depth token
      let inner ← readNot limit (depth + 1) rest
      return ⟨.not inner.value, inner.rest, Nat.lt_trans inner.shorter (by simp)⟩
    else readPrimary limit depth (token :: rest)
termination_by (tokens.length, 1)
decreasing_by
  · exact Prod.Lex.left _ _ (by simp)
  · exact Prod.Lex.right _ (by omega)

def readPrimary (limit depth : Nat) (tokens : List Token) :
    Except Fault (Reading Condition tokens) :=
  match tokens with
  | [] => .error (lacking .operand [])
  | token :: rest =>
    if token.kind = .openParen then do
      enter limit depth token
      let inner ← readOr limit (depth + 1) rest
      match behind : inner.rest with
      | [] => throw (lacking .groupClose [])
      | closing :: more =>
        if closing.kind = .closeParen then
          return ⟨inner.value, more, by
            have := inner.shorter
            simp [behind] at *
            omega⟩
        else throw (.unexpected .groupClose closing)
    else readTerm (token :: rest)
termination_by (tokens.length, 0)
decreasing_by
  · exact Prod.Lex.left _ _ (by simp)

end

end Rules

def parseTokens (limit : Nat) (tokens : List Token) : Except Fault Condition :=
  match tokens with
  | [] => .error .empty
  | first :: _ =>
    if first.kind = .stop then .error .empty
    else do
      let whole ← readOr limit 0 tokens
      match whole.rest with
      | [] => return whole.value
      | token :: _ =>
        if token.kind = .stop then return whole.value else throw (.trailing token.offset)

end BoolQuery.Parser.Descent
