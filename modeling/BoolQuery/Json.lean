import BoolQuery.Decimal
import BoolQuery.Text.Quoted

/-! JSON values. The members of an object keep their order, and a key may occur twice. -/
namespace BoolQuery

/-- A number: integers of 64 bits are exact, every other number stands for a binary64 number. -/
inductive Json.Number
  | integer (value : Int)
  | float (value : Decimal)
  deriving DecidableEq, Repr

inductive Json
  | null
  | bool (value : Bool)
  | number (value : Json.Number)
  | string (text : String)
  | array (items : List Json)
  | object (members : List (String × Json))
  deriving Repr

namespace Json

/-- The text of a float: positional while the point stands among or close to the digits, else with
an exponent. -/
def floatText (value : Decimal) : String :=
  let length : Int := (Nat.toDigits 10 value.digits).length
  let whole := length + value.exponent
  if value.digits = 0 then value.sign ++ "0.0"
  else if -5 < whole ∧ whole ≤ 16 then value.positional
  else value.scientific

def Number.text : Number → String
  | .integer value => toString value
  | .float value => floatText value

def describe : Json → String
  | .null => "null"
  | .bool value => "boolean `" ++ toString value ++ "`"
  | .number (.integer value) => "integer `" ++ toString value ++ "`"
  | .number (.float value) => "floating point `" ++ floatText value ++ "`"
  | .string text => "string " ++ Text.quoted text
  | .array _ => "sequence"
  | .object _ => "map"

end Json
end BoolQuery
