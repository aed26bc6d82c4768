/-! Numbers: where the integers of 64 and 128 bits end, decimal numbers as they are written, and the
shortest decimal that names the same binary64 number. All arithmetic is exact. -/
namespace BoolQuery

namespace Width

/-! The first natural numbers that are too large for so many bits. The lowest integer of 64 bits with a
sign is the opposite of `half64`, and likewise for 128 bits. -/

def half64 : Nat := Nat.pow 2 63

def full64 : Nat := Nat.pow 2 64

def half128 : Nat := Nat.pow 2 127

def full128 : Nat := Nat.pow 2 128

end Width

/-- The number `digits * 10 ^ exponent`, below zero when `negative`. -/
structure Decimal where
  negative : Bool
  digits : Nat
  exponent : Int
  deriving DecidableEq, Repr

namespace Decimal

section Rounding

structure Ratio where
  num : Nat
  den : Nat

def Ratio.scale (ratio : Ratio) (base : Nat) (power : Int) : Ratio :=
  if 0 ≤ power then ⟨ratio.num * Nat.pow base power.toNat, ratio.den⟩
  else ⟨ratio.num, ratio.den * Nat.pow base (-power).toNat⟩

def Ratio.le (a b : Ratio) : Bool := a.num * b.den ≤ b.num * a.den

def Ratio.lt (a b : Ratio) : Bool := a.num * b.den < b.num * a.den

def Ratio.round (ratio : Ratio) : Nat :=
  let low := ratio.num / ratio.den
  let twice := 2 * (ratio.num % ratio.den)
  if twice < ratio.den then low
  else if ratio.den < twice then low + 1
  else if low % 2 = 0 then low else low + 1

/-- The binary64 number `mantissa * 2 ^ exponent`. -/
structure Binary64 where
  mantissa : Nat
  exponent : Int
  deriving DecidableEq, Repr

/-- The binary64 number nearest to a positive ratio, absent when it is too large. The mantissa has
53 bits unless the number is too small for that. -/
def Ratio.toBinary64? (ratio : Ratio) : Option Binary64 :=
  let magnitude : Int := (ratio.num.log2 : Int) - ratio.den.log2
  let guess : Int := max (magnitude - 53) (-1074)
  let wide := (ratio.scale 2 (-guess)).round
  let exponent : Int := if wide.log2 ≤ 52 then guess else guess + (wide.log2 - 52 : Nat)
  let mantissa := (ratio.scale 2 (-exponent)).round
  let fitted : Binary64 :=
    if mantissa = Nat.pow 2 53 then ⟨Nat.pow 2 52, exponent + 1⟩ else ⟨mantissa, exponent⟩
  if 971 < fitted.exponent then none else some fitted

end Rounding

section Shortest

/-- The numbers that round to a binary64 number lie between these two, and the ends do so as well
when the mantissa is even. All are given in units of a quarter of the last place. -/
def Binary64.reach (number : Binary64) : Nat × Nat :=
  let below := if number.mantissa = Nat.pow 2 52 ∧ -1074 < number.exponent then 1 else 2
  (4 * number.mantissa - below, 4 * number.mantissa + 2)

def Binary64.covers (number : Binary64) (candidate : Ratio) : Bool :=
  let low := Ratio.scale ⟨number.reach.1, 4⟩ 2 number.exponent
  let high := Ratio.scale ⟨number.reach.2, 4⟩ 2 number.exponent
  if number.mantissa % 2 = 0 then low.le candidate && candidate.le high
  else low.lt candidate && candidate.lt high

/-- The neighbour of the number on the grid of multiples of `10 ^ exponent` that reads as the
number; of two such neighbours the nearer one. -/
def Binary64.onGrid? (number : Binary64) (exponent : Int) : Option Nat :=
  let steps := (Ratio.scale ⟨number.mantissa, 1⟩ 2 number.exponent).scale 10 (-exponent)
  let low := steps.num / steps.den
  let covered (digits : Nat) : Bool :=
    0 < digits && number.covers (Ratio.scale ⟨digits, 1⟩ 10 exponent)
  let nearest := steps.round
  if covered nearest then some nearest
  else if covered low then some low
  else if covered (low + 1) then some (low + 1)
  else none

/-- Tries grids from the coarsest to the finest; `tries` bounds their number. -/
def Binary64.onGrids (number : Binary64) (exponent : Int) : Nat → Nat × Int
  | 0 => (number.mantissa, 0)
  | tries + 1 =>
    match number.onGrid? exponent with
    | some digits => (digits, exponent)
    | none => number.onGrids (exponent - 1) tries

def places (n : Nat) : Nat := (Nat.toDigits 10 n).length

/-- The shortest decimal that reads as the same binary64 number, absent when the number is too
large for one. Numbers too small to tell from zero are zero. -/
def shortest? (decimal : Decimal) : Option Decimal :=
  let top : Int := (places decimal.digits : Int) + decimal.exponent
  if decimal.digits = 0 ∨ top < -400 then some ⟨decimal.negative, 0, 0⟩
  else if 400 < top then none
  else
    match (Ratio.scale ⟨decimal.digits, 1⟩ 10 decimal.exponent).toBinary64? with
    | none => none
    | some number =>
      if number.mantissa = 0 then some ⟨decimal.negative, 0, 0⟩
      else
        let (digits, exponent) := number.onGrids top 20
        some ⟨decimal.negative, digits, exponent⟩

end Shortest

section Texts

def sign (decimal : Decimal) : String := if decimal.negative then "-" else ""

/-- Digits with a point behind the first `whole` of them; a whole number keeps one zero behind the
point. -/
def pointed (digits : List Char) (whole : Int) : String :=
  if whole ≤ 0 then
    "0." ++ String.ofList (List.replicate (-whole).toNat '0' ++ digits)
  else
    let before := digits.take whole.toNat
    let after := digits.drop whole.toNat
    String.ofList (before ++ List.replicate (whole.toNat - digits.length) '0') ++ "." ++
      (if after = [] then "0" else String.ofList after)

def positional (decimal : Decimal) : String :=
  let digits := Nat.toDigits 10 decimal.digits
  decimal.sign ++ pointed digits ((digits.length : Int) + decimal.exponent)

def scientific (decimal : Decimal) : String :=
  let digits := Nat.toDigits 10 decimal.digits
  let power := (digits.length : Int) + decimal.exponent - 1
  let fraction := if digits.length ≤ 1 then "" else "." ++ String.ofList (digits.drop 1)
  decimal.sign ++ String.ofList (digits.take 1) ++ fraction ++ "e" ++ toString power

end Texts

end Decimal
end BoolQuery
