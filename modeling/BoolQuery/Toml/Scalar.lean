import BoolQuery.Toml

/-! TOML values that are written without quotes: truth values, integers in four bases, floats, dates
and times. -/
namespace BoolQuery.Toml

section Digits

def digitValue? (base : Nat) (c : Char) : Option Nat :=
  let value :=
    if '0' ≤ c && c ≤ '9' then c.toNat - '0'.toNat
    else if 'a' ≤ c && c ≤ 'f' then c.toNat - 'a'.toNat + 10
    else if 'A' ≤ c && c ≤ 'F' then c.toNat - 'A'.toNat + 10
    else 16
  if value < base then some value else none

/-- Goes on with digits. An underscore stands between two digits; `behind` tells that the last
character was a digit. -/
def digitsFrom? (base value : Nat) (behind : Bool) : List Char → Option Nat
  | [] => if behind then some value else none
  | c :: rest =>
    if c = '_' then if behind then digitsFrom? base value false rest else none
    else match digitValue? base c with
      | some digit => digitsFrom? base (base * value + digit) true rest
      | none => none

def digits? (base : Nat) (text : List Char) : Option Nat := digitsFrom? base 0 false text

def digitCount (text : List Char) : Nat := (text.filter (· ≠ '_')).length

def plain? (text : List Char) : Option Nat :=
  match text with
  -- no zeros in front
  | '0' :: _ :: _ => none
  | _ => digits? 10 text

end Digits

section Numbers

def splitSign (text : List Char) : Bool × List Char :=
  match text with
  | '-' :: rest => (true, rest)
  | '+' :: rest => (false, rest)
  | _ => (false, text)

def signed (negative : Bool) (value : Nat) : Int := if negative then -value else value

/-- The integer that a text spells. Only integers in base ten have a sign. -/
def integer? (text : List Char) : Option Int :=
  match text with
  | '0' :: 'x' :: rest => (digits? 16 rest).map Int.ofNat
  | '0' :: 'o' :: rest => (digits? 8 rest).map Int.ofNat
  | '0' :: 'b' :: rest => (digits? 2 rest).map Int.ofNat
  | _ =>
    let (negative, rest) := splitSign text
    (plain? rest).map (signed negative)

def exponent? (text : List Char) : Option Int :=
  let (negative, rest) := splitSign text
  (digits? 10 rest).map (signed negative)

def splitAt? (isMark : Char → Bool) (text : List Char) : Option (List Char × List Char) :=
  match text.dropWhile (fun c => !isMark c) with
  | [] => none
  | _ :: rest => some (text.takeWhile (fun c => !isMark c), rest)

def floatOf (decimal : Decimal) : Float :=
  match decimal.shortest? with
  | some value => .finite value
  | none => .infinite decimal.negative

def unsignedFloat? (negative : Bool) (text : List Char) : Option Float := do
  let isLetter (c : Char) : Bool := c = 'e' || c = 'E'
  let (number, exponent) ← match splitAt? isLetter text with
    | some (number, power) => do pure (number, some (← exponent? power))
    | none => pure (text, none)
  -- digits behind a point, an exponent, or both make a float
  match splitAt? (· = '.') number, exponent with
  | some (whole, fraction), _ =>
    let high ← plain? whole
    let low ← digits? 10 fraction
    let places := digitCount fraction
    return floatOf ⟨negative, high * Nat.pow 10 places + low, exponent.getD 0 - places⟩
  | none, some power => return floatOf ⟨negative, ← plain? number, power⟩
  | none, none => none

def float? (text : List Char) : Option Float :=
  let (negative, rest) := splitSign text
  if rest = ['i', 'n', 'f'] then some (.infinite negative)
  else if rest = ['n', 'a', 'n'] then some .notANumber
  else unsignedFloat? negative rest

end Numbers

section Moments

/-- A number of exactly `count` digits in front of a text, at least `low` and at most `high`. -/
def field? (count low high : Nat) (text : List Char) : Option (Nat × List Char) := do
  let front := text.take count
  if front.length = count && front.all Char.isDigit then
    let value ← digits? 10 front
    if low ≤ value && value ≤ high then some (value, text.drop count) else none
  else none

def behind? (mark : Char) (text : List Char) : Option (List Char) :=
  match text with
  | c :: rest => if c = mark then some rest else none
  | [] => none

def monthDays (year month : Nat) : Nat :=
  if month = 2 then if year % 4 = 0 && (year % 100 ≠ 0 || year % 400 = 0) then 29 else 28
  else if month = 4 || month = 6 || month = 9 || month = 11 then 30
  else 31

def behindDate? (text : List Char) : Option (List Char) := do
  let (year, text) ← field? 4 0 9999 text
  let (month, text) ← field? 2 1 12 (← behind? '-' text)
  let (_, text) ← field? 2 1 (monthDays year month) (← behind? '-' text)
  return text

def behindFraction? (text : List Char) : Option (List Char) :=
  match text with
  | '.' :: rest => if (rest.takeWhile Char.isDigit).isEmpty then none else some (rest.dropWhile Char.isDigit)
  | _ => some text

def behindTime? (text : List Char) : Option (List Char) := do
  let (_, text) ← field? 2 0 23 text
  let (_, text) ← field? 2 0 59 (← behind? ':' text)
  match text with
  | ':' :: rest =>
    -- sixty is the number of a leap second
    let (_, text) ← field? 2 0 60 rest
    behindFraction? text
  | _ => return text

def behindOffset? (text : List Char) : Option (List Char) :=
  match text with
  | 'Z' :: rest | 'z' :: rest => some rest
  | '+' :: rest | '-' :: rest => do
    let (_, text) ← field? 2 0 23 rest
    let (_, text) ← field? 2 0 59 (← behind? ':' text)
    return text
  | _ => none

/-- A text is a time, a date, or a date with a time that may have an offset. -/
def isMoment (text : List Char) : Bool :=
  match behindDate? text with
  | none => behindTime? text = some []
  | some [] => true
  | some (c :: rest) =>
    (c = 'T' || c = 't' || c = ' ') &&
      match behindTime? rest with
      | none => false
      | some [] => true
      | some zone => behindOffset? zone = some []

end Moments

def scalar? (text : List Char) : Option Toml :=
  if text = ['t', 'r', 'u', 'e'] then some (.boolean true)
  else if text = ['f', 'a', 'l', 's', 'e'] then some (.boolean false)
  else match integer? text with
    | some value => some (.integer value)
    | none =>
      match float? text with
      | some value => some (.float value)
      | none => if isMoment text then some (.moment (String.ofList text)) else none

end BoolQuery.Toml
