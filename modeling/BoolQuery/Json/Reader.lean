import BoolQuery.Json
import BoolQuery.Text
import BoolQuery.Decimal

/-! JSON values from text. The reader takes one character at a time and keeps the arrays and
objects that are open on a stack, so that it can say at any character what has been read. A text is
wrong in one of two ways: it ends too early, or a character cannot stand where it does. -/
namespace BoolQuery.Json.Reader

inductive Fault
  | endOfText
  | malformed
  deriving DecidableEq, Repr

def maxNesting : Nat := 127

def isBlank (c : Char) : Bool := c = ' ' || c = '\n' || c = '\t' || c = '\r'

section Numbers

inductive Place
  | start
  | zero
  | whole
  | point
  | fraction
  | letter
  | letterSign
  | power
  deriving DecidableEq, Repr

/-- A number as far as it is read: `digits / 10 ^ scale`, times ten to the power. -/
structure Numeral where
  negative : Bool
  place : Place := .start
  digits : Nat := 0
  scale : Nat := 0
  powerNegative : Bool := false
  power : Nat := 0
  deriving DecidableEq, Repr

def Numeral.decimal (numeral : Numeral) : Decimal :=
  let power : Int := if numeral.powerNegative then -numeral.power else numeral.power
  ⟨numeral.negative, numeral.digits, power - numeral.scale⟩

/-- A numeral is an integer when it has neither point nor exponent, fits 64 bits and is not a zero
below zero. A numeral too large for any number is refused. -/
def Numeral.number? (numeral : Numeral) : Option Number :=
  let value : Int := if numeral.negative then -numeral.digits else numeral.digits
  let plain := numeral.place = .zero ∨ numeral.place = .whole
  if plain ∧ -(Width.half64 : Int) ≤ value ∧ value < Width.full64 ∧
      ¬ (numeral.negative ∧ value = 0) then
    some (.integer value)
  else numeral.decimal.shortest?.map .float

def digit? (c : Char) : Option Nat :=
  if c.isDigit then some (c.toNat - '0'.toNat) else none

inductive Numeral.Next
  | more (numeral : Numeral)
  | over
  | wrong

def Numeral.afterDigits (numeral : Numeral) (mayPoint : Bool) (c : Char) : Numeral.Next :=
  if c = '.' && mayPoint then .more { numeral with place := .point }
  else if c = 'e' || c = 'E' then .more { numeral with place := .letter }
  else .over

/-- Reads one character of a numeral. A zero at the start stands alone, and the point and the letter
must have digits behind them. -/
def Numeral.next (numeral : Numeral) (c : Char) : Numeral.Next :=
  match numeral.place, digit? c with
  | .start, some digit =>
    .more { numeral with digits := digit, place := if digit = 0 then .zero else .whole }
  | .whole, some digit => .more { numeral with digits := 10 * numeral.digits + digit }
  | .point, some digit | .fraction, some digit =>
    .more { numeral with
      digits := 10 * numeral.digits + digit
      scale := numeral.scale + 1
      place := .fraction }
  | .letter, some digit | .letterSign, some digit | .power, some digit =>
    .more { numeral with power := 10 * numeral.power + digit, place := .power }
  | .zero, none | .whole, none => numeral.afterDigits true c
  | .fraction, none => numeral.afterDigits false c
  | .letter, none =>
    if c = '+' then .more { numeral with place := .letterSign }
    else if c = '-' then .more { numeral with place := .letterSign, powerNegative := true }
    else .wrong
  | .power, none => .over
  | .zero, some _ | .start, none | .point, none | .letterSign, none => .wrong

def Numeral.isComplete (numeral : Numeral) : Bool :=
  match numeral.place with
  | .zero | .whole | .fraction | .power => true
  | .start | .point | .letter | .letterSign => false

end Numbers

section Strings

/-- Where in a string the next character stands. Characters taken for a code unit are listed
latest first. -/
inductive Place.InString
  | plain
  | escape
  | unit (taken : List Char)
  | pair (high : Nat)
  | pairEscape (high : Nat)
  | pairUnit (high : Nat) (taken : List Char)
  deriving DecidableEq, Repr

structure Quote where
  text : String := ""
  place : Place.InString := .plain
  deriving DecidableEq, Repr

def hexValue? (c : Char) : Option Nat :=
  if '0' ≤ c && c ≤ '9' then some (c.toNat - '0'.toNat)
  else if 'a' ≤ c && c ≤ 'f' then some (c.toNat - 'a'.toNat + 10)
  else if 'A' ≤ c && c ≤ 'F' then some (c.toNat - 'A'.toNat + 10)
  else none

def hexNumber? : List Char → Option Nat
  | [] => some 0
  | c :: rest => do
    let low ← hexValue? c
    let high ← hexNumber? rest
    return 16 * high + low

def escaped? (c : Char) : Option Char :=
  match c with
  | '\x22' => some '\x22'
  | '\\' => some '\\'
  | '/' => some '/'
  | 'b' => some '\x08'
  | 'f' => some '\x0c'
  | 'n' => some '\n'
  | 'r' => some '\r'
  | 't' => some '\t'
  | _ => none

def isHighHalf (unit : Nat) : Bool := 0xd800 ≤ unit && unit ≤ 0xdbff

def isLowHalf (unit : Nat) : Bool := 0xdc00 ≤ unit && unit ≤ 0xdfff

def pairPoint (high low : Nat) : Nat := 0x10000 + (high - 0xd800) * 0x400 + (low - 0xdc00)

/-- Reads a character inside a string; the answer is absent when the character ends the string. A
code unit takes the four bytes behind its letter and is judged when all four are there. -/
def Quote.next (quote : Quote) (c : Char) : Except Fault (Option Quote) :=
  let goOn (place : Place.InString) : Except Fault (Option Quote) := .ok (some { quote with place })
  let add (character : Char) : Except Fault (Option Quote) :=
    .ok (some ⟨quote.text.push character, .plain⟩)
  match quote.place with
  | .plain =>
    if c = '\x22' then .ok none
    else if c = '\\' then goOn .escape
    else if c.toNat < 0x20 then .error .malformed
    else add c
  | .escape =>
    if c = 'u' then goOn (.unit [])
    else match escaped? c with
      | some character => add character
      | none => .error .malformed
  | .unit taken =>
    -- bytes are counted, not characters: a character of several bytes is no digit either way
    if Text.byteSize (c :: taken) < 4 then goOn (.unit (c :: taken))
    else match hexNumber? (c :: taken) with
      | some unit =>
        if isHighHalf unit then goOn (.pair unit)
        else if isLowHalf unit then .error .malformed
        else add (Char.ofNat unit)
      | none => .error .malformed
  | .pair high => if c = '\\' then goOn (.pairEscape high) else .error .malformed
  | .pairEscape high => if c = 'u' then goOn (.pairUnit high []) else .error .malformed
  | .pairUnit high taken =>
    if Text.byteSize (c :: taken) < 4 then goOn (.pairUnit high (c :: taken))
    else match hexNumber? (c :: taken) with
      | some low => if isLowHalf low then add (Char.ofNat (pairPoint high low)) else .error .malformed
      | none => .error .malformed

end Strings

section Values

inductive Frame
  | array (items : List Json)
  | object (members : List (String × Json)) (key : String)
  deriving Repr

/-- What the next character stands in. Items and members are listed latest first. -/
inductive Mode
  | value
  | firstItem
  | firstKey
  | key (members : List (String × Json))
  | keyText (members : List (String × Json)) (quote : Quote)
  | colon (members : List (String × Json)) (key : String)
  | text (quote : Quote)
  | numeral (numeral : Numeral)
  | word (rest : List Char) (value : Json)
  | afterItem (items : List Json)
  | afterMember (members : List (String × Json))
  | done (value : Json)
  deriving Repr

structure State where
  frames : List Frame := []
  mode : Mode := .value
  deriving Repr

def State.place (frames : List Frame) (value : Json) : State :=
  match frames with
  | [] => ⟨[], .done value⟩
  | .array items :: outer => ⟨outer, .afterItem (value :: items)⟩
  | .object members key :: outer => ⟨outer, .afterMember ((key, value) :: members)⟩

/-- Completes a numeral that the next character is no part of; at the end of the text there is no
next character. -/
def State.settle (state : State) (next : Option Char) : Except Fault State :=
  match state.mode with
  | .numeral numeral =>
    let complete : Except Fault State :=
      match numeral.number? with
      | some read => .ok (State.place state.frames (.number read))
      | none => .error .malformed
    match next with
    | none => if numeral.isComplete then complete else .error .endOfText
    | some c =>
      match numeral.next c with
      | .more _ => .ok state
      | .over => complete
      | .wrong => .error .malformed
  | _ => .ok state

def State.stepValue (frames : List Frame) (c : Char) : Except Fault State :=
  let enter (mode : Mode) : Except Fault State :=
    if frames.length < maxNesting then .ok ⟨frames, mode⟩ else .error .malformed
  match c with
  | 'n' => .ok ⟨frames, .word ['u', 'l', 'l'] .null⟩
  | 't' => .ok ⟨frames, .word ['r', 'u', 'e'] (.bool true)⟩
  | 'f' => .ok ⟨frames, .word ['a', 'l', 's', 'e'] (.bool false)⟩
  | '\x22' => .ok ⟨frames, .text {}⟩
  | '[' => enter .firstItem
  | '\x7b' => enter .firstKey
  | '-' => .ok ⟨frames, .numeral ⟨true, .start, 0, 0, false, 0⟩⟩
  -- all other values are numbers without a sign
  | _ =>
    match Numeral.next ⟨false, .start, 0, 0, false, 0⟩ c with
    | .more numeral => .ok ⟨frames, .numeral numeral⟩
    | .over | .wrong => .error .malformed

def State.step (state : State) (c : Char) : Except Fault State :=
  let frames := state.frames
  match state.mode with
  | .value => if isBlank c then .ok state else State.stepValue frames c
  | .firstItem =>
    if isBlank c then .ok state
    else if c = ']' then .ok (State.place frames (.array []))
    else State.stepValue (.array [] :: frames) c
  | .firstKey =>
    if isBlank c then .ok state
    else if c = '\x7d' then .ok (State.place frames (.object []))
    else if c = '\x22' then .ok ⟨frames, .keyText [] {}⟩
    else .error .malformed
  | .key members =>
    if isBlank c then .ok state
    else if c = '\x22' then .ok ⟨frames, .keyText members {}⟩
    else .error .malformed
  | .keyText members quote =>
    match quote.next c with
    | .ok (some quote) => .ok ⟨frames, .keyText members quote⟩
    | .ok none => .ok ⟨frames, .colon members quote.text⟩
    | .error fault => .error fault
  | .colon members key =>
    if isBlank c then .ok state
    else if c = ':' then .ok ⟨.object members key :: frames, .value⟩
    else .error .malformed
  | .text quote =>
    match quote.next c with
    | .ok (some quote) => .ok ⟨frames, .text quote⟩
    | .ok none => .ok (State.place frames (.string quote.text))
    | .error fault => .error fault
  | .numeral numeral =>
    match numeral.next c with
    | .more numeral => .ok ⟨frames, .numeral numeral⟩
    | .over | .wrong => .error .malformed
  | .word expected value =>
    match expected with
    | [] => .error .malformed
    | letter :: rest =>
      if c ≠ letter then .error .malformed
      else if rest = [] then .ok (State.place frames value)
      else .ok ⟨frames, .word rest value⟩
  | .afterItem items =>
    if isBlank c then .ok state
    else if c = ',' then .ok ⟨.array items :: frames, .value⟩
    else if c = ']' then .ok (State.place frames (.array items.reverse))
    else .error .malformed
  | .afterMember members =>
    if isBlank c then .ok state
    else if c = ',' then .ok ⟨frames, .key members⟩
    else if c = '\x7d' then .ok (State.place frames (.object members.reverse))
    else .error .malformed
  | .done _ => .error .malformed

/-- How reading ends: with a value and the text behind it, or with the state in which it stops. -/
inductive Outcome
  | complete (value : Json) (rest : List Char)
  | stopped (state : State) (fault : Fault)
  deriving Repr

def State.run (state : State) (text : List Char) : Outcome :=
  match state.settle text.head? with
  | .error fault => .stopped state fault
  | .ok settled =>
    match settled.mode, text with
    | .done value, _ => .complete value text
    | _, [] => .stopped settled .endOfText
    | _, c :: rest =>
      match settled.step c with
      | .ok next => next.run rest
      | .error fault => .stopped settled fault

/-- The innermost array or object, as if it ended here. -/
def Mode.held? : Mode → Option Json
  | .firstItem => some (.array [])
  | .firstKey => some (.object [])
  | .key members | .keyText members _ | .colon members _ | .afterMember members =>
    some (.object members.reverse)
  | .afterItem items => some (.array items.reverse)
  | .done whole => some whole
  | .value | .text _ | .numeral _ | .word _ _ => none

def closeFrames (held : Option Json) : List Frame → Option Json
  | [] => held
  | .array items :: outer => closeFrames (some (.array (held.toList ++ items).reverse)) outer
  | .object members key :: outer =>
    closeFrames (some (.object ((held.map (key, ·)).toList ++ members).reverse)) outer

/-- The whole value, as if everything that is open ended here. -/
def State.soFar? (state : State) : Option Json := closeFrames state.mode.held? state.frames

def State.pendingKey? (state : State) : Option String :=
  match state.frames.getLast?, state.mode with
  | some (.object _ key), _ => some key
  | some (.array _), _ => none
  | none, .colon _ key => some key
  | none, _ => none

end Values

end BoolQuery.Json.Reader

namespace BoolQuery.Json

def read (text : String) : Except Reader.Fault Json :=
  match Reader.State.run {} text.toList with
  | .complete value rest => if rest.all Reader.isBlank then .ok value else .error .malformed
  | .stopped _ fault => .error fault

end BoolQuery.Json
