import BoolQuery.Json

/-! JSON values that differ in the order of the members of their objects only. -/
namespace BoolQuery.Json

mutual

/-- The second value is the first one with the members of any of its objects in another order. -/
inductive Reordered : Json → Json → Prop
  | null : Reordered .null .null
  | bool (value : Bool) : Reordered (.bool value) (.bool value)
  | number (value : Number) : Reordered (.number value) (.number value)
  | string (text : String) : Reordered (.string text) (.string text)
  | array {first second : List Json} (items : ReorderedItems first second) :
    Reordered (.array first) (.array second)
  | object {first middle second : List (String × Json)} (members : ReorderedMembers first middle)
    (order : middle.Perm second) : Reordered (.object first) (.object second)

inductive ReorderedItems : List Json → List Json → Prop
  | nil : ReorderedItems [] []
  | cons {item other : Json} {first second : List Json} (inside : Reordered item other)
    (rest : ReorderedItems first second) : ReorderedItems (item :: first) (other :: second)

inductive ReorderedMembers : List (String × Json) → List (String × Json) → Prop
  | nil : ReorderedMembers [] []
  | cons (key : String) {value other : Json} {first second : List (String × Json)}
    (inside : Reordered value other) (rest : ReorderedMembers first second) :
    ReorderedMembers ((key, value) :: first) ((key, other) :: second)

end

mutual

/-- No object in the value has two members of one key. -/
def distinctKeys : Json → Bool
  | .null | .bool _ | .number _ | .string _ => true
  | .array items => distinctItems items
  | .object members => (members.map Prod.fst).Nodup && distinctMembers members

def distinctItems : List Json → Bool
  | [] => true
  | item :: rest => item.distinctKeys && distinctItems rest

def distinctMembers : List (String × Json) → Bool
  | [] => true
  | (_, value) :: rest => value.distinctKeys && distinctMembers rest

end

mutual

theorem reordered_refl (value : Json) : Reordered value value := by
  match value with
  | .null => exact .null
  | .bool value => exact .bool value
  | .number value => exact .number value
  | .string text => exact .string text
  | .array items => exact .array (reordered_items_refl items)
  | .object members => exact .object (reordered_members_refl members) (.refl members)

theorem reordered_items_refl (items : List Json) : ReorderedItems items items := by
  match items with
  | [] => exact .nil
  | item :: rest => exact .cons (reordered_refl item) (reordered_items_refl rest)

theorem reordered_members_refl (members : List (String × Json)) : ReorderedMembers members members := by
  match members with
  | [] => exact .nil
  | (key, value) :: rest => exact .cons key (reordered_refl value) (reordered_members_refl rest)

end

end BoolQuery.Json
