import BoolQuery.Token

/-! Tokens from text, one character at a time. The reader is a fold: a state remembers the tokens
found so far and what the current character stands in, and only the end of the text can show that
something was left open. -/
namespace BoolQuery.Lexer
open Token

/-- What the next character stands in. Offsets are counted in bytes. -/
inductive Mode
  | between
  /-- In a bare word that began at `start`; `escaped` records whether an escape occurred in it. -/
  | word (start : Nat) (text : String) (escaped : Bool)
  | phrase (start : Nat) (text : String)
  | wordEscape (mark start : Nat) (text : String)
  | phraseEscape (mark start : Nat) (text : String)
  deriving DecidableEq, Repr

/-- The reader after some characters: tokens found, latest first, and the bytes passed. -/
structure State where
  found : List Token := []
  offset : Nat := 0
  mode : Mode := .between
  deriving DecidableEq, Repr

inductive Fault
  | unterminatedPhrase (start : Nat)
  | danglingEscape (mark : Nat)
  deriving DecidableEq, Repr

/-- Reads a character between tokens: a gap, a whole punctuation token, or the first character of
a word or a phrase. -/
def State.stepBetween (state : State) (c : Char) : State :=
  let next := state.offset + c.utf8Size
  if isBlank c then ⟨state.found, next, .between⟩
  else match punctuation? c with
    | some kind => ⟨⟨kind, state.offset⟩ :: state.found, next, .between⟩
    | none =>
      if c = '\x22' then ⟨state.found, next, .phrase state.offset ""⟩
      else if c = '\\' then ⟨state.found, next, .wordEscape state.offset state.offset ""⟩
      else ⟨state.found, next, .word state.offset ("".push c) false⟩

def State.step (state : State) (c : Char) : State :=
  let next := state.offset + c.utf8Size
  match state.mode with
  | .between => state.stepBetween c
  | .word start text escaped =>
    if c = '\\' then ⟨state.found, next, .wordEscape state.offset start text⟩
    else if isDelimiter c then
      State.stepBetween ⟨⟨wordKind text escaped, start⟩ :: state.found, state.offset, .between⟩ c
    else ⟨state.found, next, .word start (text.push c) escaped⟩
  | .phrase start text =>
    if c = '\x22' then ⟨⟨.phrase text, start⟩ :: state.found, next, .between⟩
    else if c = '\\' then ⟨state.found, next, .phraseEscape state.offset start text⟩
    else ⟨state.found, next, .phrase start (text.push c)⟩
  | .wordEscape _ start text => ⟨state.found, next, .word start (text.push c) true⟩
  | .phraseEscape _ start text => ⟨state.found, next, .phrase start (text.push c)⟩

def State.run (state : State) (text : List Char) : State := text.foldl State.step state

def State.finish (state : State) : Except Fault (List Token) :=
  let stop : Token := ⟨.stop, state.offset⟩
  match state.mode with
  | .between => .ok (stop :: state.found).reverse
  | .word start text escaped => .ok (stop :: ⟨wordKind text escaped, start⟩ :: state.found).reverse
  | .phrase start _ => .error (.unterminatedPhrase start)
  | .wordEscape mark _ _ | .phraseEscape mark _ _ => .error (.danglingEscape mark)

/-- The tokens of a query, ending with its only `stop`. -/
def tokenize (query : String) : Except Fault (List Token) :=
  (State.run {} query.toList).finish

end BoolQuery.Lexer
