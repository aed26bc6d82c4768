import BoolQuery.Proofs.Condition.Decoding

/-! The JSON value of a condition: it stands for the condition, is nested as deeply as the condition
is high, and has no numbers and no key twice in one object. -/
namespace BoolQuery.Condition

theorem readMember_condition (shape : Shape) (values : FieldValues) (name : String) {value : Json}
    {condition : Condition} (known : shape.fields.lookup name = some .condition)
    (fresh : values.lookup name = none) (read : ofJson true value = .ok condition) :
    readMember shape values (name, value) = .ok ((name, .condition condition) :: values) := by
  have nested : readField .condition value = .ok (.condition condition) :=
    map_eq_ok_iff.mpr ⟨condition, read, rfl⟩
  exact readMember_eq_ok_iff.mpr (.inr ⟨_, _, known, fresh, nested, rfl⟩)

theorem readMember_tag (shape : Shape) (values : FieldValues) (value : Json) :
    readMember shape values (tagKey, value) = .ok values := by
  cases shape <;> rfl

-- Both shapes with two sides have the same fields.
theorem readMembers_sides {shape : Shape}
    (sides : shape.fields = [("left", .condition), ("right", .condition)]) {tag first second : Json}
    {left right : Condition} (read : ofJson true first = .ok left)
    (read' : ofJson true second = .ok right) :
    readMembers shape [] [(tagKey, tag), ("left", first), ("right", second)] =
      .ok [("right", .condition right), ("left", .condition left)] := by
  have tagged := readMember_tag shape [] tag
  have one := readMember_condition shape [] "left" (by rw [sides]; rfl) rfl read
  have two := readMember_condition shape [("left", .condition left)] "right" (by rw [sides]; rfl)
    rfl read'
  exact readMembers_cons_iff.mpr ⟨_, tagged, readMembers_cons_iff.mpr ⟨_, one,
    readMembers_cons_iff.mpr ⟨_, two, rfl⟩⟩⟩

/-- The value of a condition stands for it. -/
theorem ofJson_toJson (condition : Condition) (inner : Bool) :
    ofJson inner condition.toJson = .ok condition := by
  induction condition generalizing inner with
  | holds field value => rfl
  | and left right ih ih' | or left right ih ih' =>
    exact ofJson_object_iff.mpr ⟨_, _, rfl, readMembers_sides rfl (ih true) (ih' true), rfl⟩
  | not inside ih =>
    have tagged := readMember_tag .not [] (.string Shape.not.tag)
    have one := readMember_condition .not [] "inner" rfl rfl (ih true)
    exact ofJson_object_iff.mpr ⟨_, _, rfl, readMembers_cons_iff.mpr ⟨_, tagged,
      readMembers_cons_iff.mpr ⟨_, one, rfl⟩⟩, rfl⟩
  | range field lower upper withLower withUpper => cases lower <;> cases upper <;> rfl

theorem nesting_boundJson (bound : Option String) :
    (boundJson bound).nesting = 0 ∧ (boundJson bound).numberless ∧ (boundJson bound).distinctKeys := by
  cases bound <;> exact ⟨rfl, rfl, rfl⟩

theorem nesting_toJson (condition : Condition) : condition.toJson.nesting = condition.height := by
  induction condition with
  | holds field value => rfl
  | and left right ih ih' | or left right ih ih' =>
    simp [toJson, shapeJson, Json.nesting, Json.memberNesting, height, ih, ih']
  | not inner ih => simp [toJson, shapeJson, Json.nesting, Json.memberNesting, height, ih]
  | range field lower upper withLower withUpper =>
    simp [toJson, shapeJson, Json.nesting, Json.memberNesting, height, nesting_boundJson]

theorem numberless_toJson (condition : Condition) : condition.toJson.numberless := by
  induction condition with
  | holds field value => rfl
  | and left right ih ih' | or left right ih ih' =>
    simp [toJson, shapeJson, Json.numberless, Json.numberlessMembers, ih, ih']
  | not inner ih => simp [toJson, shapeJson, Json.numberless, Json.numberlessMembers, ih]
  | range field lower upper withLower withUpper =>
    simp [toJson, shapeJson, Json.numberless, Json.numberlessMembers, nesting_boundJson]

theorem distinctKeys_toJson (condition : Condition) : condition.toJson.distinctKeys := by
  induction condition with
  | holds field value => simp [toJson, shapeJson, Json.distinctKeys, Json.distinctMembers, tagKey]
  | and left right ih ih' | or left right ih ih' =>
    simp [toJson, shapeJson, Json.distinctKeys, Json.distinctMembers, tagKey, ih, ih']
  | not inner ih => simp [toJson, shapeJson, Json.distinctKeys, Json.distinctMembers, tagKey, ih]
  | range field lower upper withLower withUpper =>
    simp [toJson, shapeJson, Json.distinctKeys, Json.distinctMembers, tagKey, nesting_boundJson]

end BoolQuery.Condition
