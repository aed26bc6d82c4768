import BoolQuery.Condition
import BoolQuery.Json.Reader
import BoolQuery.Json.Writer

/-! A condition as a JSON value. An object names the shape of its condition under the key `type`
and the fields of that shape under their names; an array gives the shape first and then the fields
in order. -/
namespace BoolQuery.Condition

section Shapes

inductive Shape
  | holds
  | and
  | or
  | not
  | range
  deriving DecidableEq, Repr

inductive FieldKind
  | text
  | bound
  | flag
  | condition
  deriving DecidableEq, Repr

inductive FieldValue
  | text (text : String)
  | bound (bound : Option String)
  | flag (flag : Bool)
  | condition (condition : Condition)

def Shape.all : List Shape := [.holds, .and, .or, .not, .range]

def Shape.tag : Shape → String
  | .holds => "match"
  | .and => "and"
  | .or => "or"
  | .not => "not"
  | .range => "time_range"

def Shape.title : Shape → String
  | .holds => "Match"
  | .and => "And"
  | .or => "Or"
  | .not => "Not"
  | .range => "TimeRange"

def Shape.fields : Shape → List (String × FieldKind)
  | .holds => [("field", .text), ("value", .text)]
  | .and | .or => [("left", .condition), ("right", .condition)]
  | .not => [("inner", .condition)]
  | .range =>
    [("field", .text), ("start", .bound), ("end", .bound), ("include_start", .flag),
      ("include_end", .flag)]

def Shape.ofTag? (tag : String) : Option Shape := Shape.all.find? fun shape => shape.tag = tag

def tagKey : String := "type"

end Shapes

section Writing

def boundJson (bound : Option String) : Json :=
  match bound with
  | some text => .string text
  | none => .null

def shapeJson (shape : Shape) (members : List (String × Json)) : Json :=
  .object ((tagKey, .string shape.tag) :: members)

def toJson : Condition → Json
  | .holds field value => shapeJson .holds [("field", .string field), ("value", .string value)]
  | .and left right => shapeJson .and [("left", left.toJson), ("right", right.toJson)]
  | .or left right => shapeJson .or [("left", left.toJson), ("right", right.toJson)]
  | .not inner => shapeJson .not [("inner", inner.toJson)]
  | .range field lower upper withLower withUpper =>
    shapeJson .range [("field", .string field), ("start", boundJson lower), ("end", boundJson upper),
      ("include_start", .bool withLower), ("include_end", .bool withUpper)]

end Writing

section Faults

inductive Expected
  | text
  | flag
  | tag
  | condition
  deriving DecidableEq, Repr

def Expected.message : Expected → String
  | .text => "a string"
  | .flag => "a boolean"
  | .tag => "variant identifier"
  | .condition => "internally tagged enum Condition"

inductive JsonFault
  | missing (field : String)
  | repeated (field : String)
  | unknownTag (tag : String)
  | unknownNumber (number : Int)
  | wrongKind (found : Json) (expected : Expected)
  | tooShort (count : Nat) (shape : Shape)
  | tooLong (count fields : Nat)

def elements (count : Nat) : String :=
  toString count ++ (if count = 1 then " element" else " elements")

def JsonFault.message : JsonFault → String
  | .missing field => "missing field `" ++ field ++ "`"
  | .repeated field => "duplicate field `" ++ field ++ "`"
  | .unknownTag tag =>
    "unknown variant `" ++ tag ++ "`, expected one of " ++
      ", ".intercalate (Shape.all.map fun shape => "`" ++ shape.tag ++ "`")
  | .unknownNumber number =>
    "invalid value: integer `" ++ toString number ++ "`, expected variant index 0 <= i < " ++
      toString Shape.all.length
  | .wrongKind found expected =>
    "invalid type: " ++ found.describe ++ ", expected " ++ expected.message
  | .tooShort count shape =>
    "invalid length " ++ toString count ++ ", expected struct variant Condition::" ++ shape.title ++
      " with " ++ elements shape.fields.length
  | .tooLong count fields =>
    "invalid length " ++ toString count ++ ", expected " ++ elements fields ++ " in sequence"

end Faults

section Tags

/-- The shape that a tag names. Only the tag of a condition inside another one may be the number of
the shape. -/
def readTag (inner : Bool) (tag : Json) : Except JsonFault Shape :=
  match tag with
  | .string text =>
    match Shape.ofTag? text with
    | some shape => .ok shape
    | none => .error (.unknownTag text)
  | .number (.integer number) =>
    if inner && 0 ≤ number then
      match Shape.all[number.toNat]? with
      | some shape => .ok shape
      | none => .error (.unknownNumber number)
    else .error (.wrongKind tag .tag)
  | _ => .error (.wrongKind tag .tag)

/-- The shape that the members of an object name, absent when none of them is a tag. A second tag is
a fault, also behind a good one. -/
def memberTag (inner : Bool) (known : Option Shape) : List (String × Json) →
    Except JsonFault (Option Shape)
  | [] => .ok known
  | (key, value) :: rest =>
    if key = tagKey then
      if known.isSome then .error (.repeated tagKey)
      else match readTag inner value with
        | .ok shape => memberTag inner (some shape) rest
        | .error fault => .error fault
    else memberTag inner known rest

end Tags

section Reading

def readScalar (kind : FieldKind) (value : Json) : Except JsonFault FieldValue :=
  match kind, value with
  | .text, .string text => .ok (.text text)
  | .bound, .string text => .ok (.bound (some text))
  | .bound, .null => .ok (.bound none)
  | .flag, .bool flag => .ok (.flag flag)
  | .text, _ | .bound, _ => .error (.wrongKind value .text)
  | .flag, _ => .error (.wrongKind value .flag)
  | .condition, _ => .error (.wrongKind value .condition)

abbrev FieldValues := List (String × FieldValue)

def FieldValues.require (values : FieldValues) (field : String) : Except JsonFault FieldValue :=
  match values.lookup field with
  | some value => .ok value
  | none => .error (.missing field)

def FieldValues.text (values : FieldValues) (field : String) : Except JsonFault String := do
  match ← values.require field with
  | .text text => return text
  | _ => .error (.missing field)

def FieldValues.condition (values : FieldValues) (field : String) : Except JsonFault Condition := do
  match ← values.require field with
  | .condition condition => return condition
  | _ => .error (.missing field)

def FieldValues.flag (values : FieldValues) (field : String) : Except JsonFault Bool := do
  match ← values.require field with
  | .flag flag => return flag
  | _ => .error (.missing field)

def FieldValues.bound (values : FieldValues) (field : String) : Option String :=
  match values.lookup field with
  | some (.bound bound) => bound
  | _ => none

/-- The condition of a shape with the given fields. The first field that is missing is named. -/
def build (shape : Shape) (values : FieldValues) : Except JsonFault Condition :=
  match shape with
  | .holds => return .holds (← values.text "field") (← values.text "value")
  | .and => return .and (← values.condition "left") (← values.condition "right")
  | .or => return .or (← values.condition "left") (← values.condition "right")
  | .not => return .not (← values.condition "inner")
  | .range =>
    return .range (← values.text "field") (values.bound "start") (values.bound "end")
      (← values.flag "include_start") (← values.flag "include_end")

mutual

/-- The condition of a value; `inner` tells that the value stands inside another condition. -/
def ofJson (inner : Bool) : Json → Except JsonFault Condition
  | .object members => do
    -- the tag may stand anywhere among the members, so it is looked for first
    match ← memberTag inner none members with
    | some shape => build shape (← readMembers shape [] members)
    | none => .error (.missing tagKey)
  | .array [] => .error (.missing tagKey)
  | .array (tag :: items) => do
    let shape ← readTag inner tag
    build shape (← readItems shape shape.fields [] items)
  | value => .error (.wrongKind value .condition)

/-- The fields among the members of an object; members that the shape does not know are left
out. -/
def readMembers (shape : Shape) (values : FieldValues) :
    List (String × Json) → Except JsonFault FieldValues
  | [] => .ok values
  | (key, value) :: rest =>
    match shape.fields.lookup key with
    | none => readMembers shape values rest
    | some kind => do
      if (values.lookup key).isSome then .error (.repeated key)
      else
        let read ← if kind = .condition then FieldValue.condition <$> ofJson true value
          else readScalar kind value
        readMembers shape ((key, read) :: values) rest

/-- The fields in the items of an array, which has to have exactly as many as the shape. -/
def readItems (shape : Shape) (fields : List (String × FieldKind)) (values : FieldValues) :
    List Json → Except JsonFault FieldValues
  | [] =>
    match fields with
    | [] => .ok values
    | _ :: _ => .error (.tooShort values.length shape)
  | item :: rest =>
    match fields with
    | [] => .error (.tooLong (values.length + rest.length + 1) values.length)
    | (field, kind) :: fields => do
      let read ← if kind = .condition then FieldValue.condition <$> ofJson true item
        else readScalar kind item
      readItems shape fields ((field, read) :: values) rest

end

end Reading

inductive TextFault
  | text (fault : Json.Reader.Fault)
  | data (fault : JsonFault)

/-- The tag is judged as soon as it is read, before the text behind it is: this is the fault of the
tag in what has been read of a text that is itself at fault. -/
def tagFault? (state : Json.Reader.State) : Option JsonFault :=
  match state.soFar? with
  | some (.object members) =>
    match memberTag false none members with
    | .error fault => some fault
    | .ok (some _) => if state.pendingKey? = some tagKey then some (.repeated tagKey) else none
    | .ok none => none
  | some (.array (tag :: _)) =>
    match readTag false tag with
    | .error fault => some fault
    | .ok _ => none
  | _ => none

/-- The condition that a whole text stands for. A fault of the data is reported before a fault of
the text behind the value. -/
def ofJsonText (text : String) : Except TextFault Condition :=
  match Json.Reader.State.run {} text.toList with
  | .complete value rest =>
    match ofJson false value with
    | .error fault => .error (.data fault)
    | .ok condition =>
      if rest.all Json.Reader.isBlank then .ok condition else .error (.text .malformed)
  | .stopped state fault =>
    match tagFault? state with
    | some early => .error (.data early)
    | none => .error (.text fault)

end BoolQuery.Condition
