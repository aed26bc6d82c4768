import BoolQuery.Json

/-! How deeply the arrays and objects of a value lie inside one another. -/
namespace BoolQuery.Json

mutual

/-- Arrays and objects on the way to the innermost value, the outermost one included. -/
def nesting : Json → Nat
  | .null | .bool _ | .number _ | .string _ => 0
  | .array items => itemNesting items + 1
  | .object members => memberNesting members + 1

def itemNesting : List Json → Nat
  | [] => 0
  | item :: rest => max item.nesting (itemNesting rest)

def memberNesting : List (String × Json) → Nat
  | [] => 0
  | (_, value) :: rest => max value.nesting (memberNesting rest)

end

theorem itemNesting_le_iff {items : List Json} {limit : Nat} :
    itemNesting items ≤ limit ↔ ∀ item ∈ items, item.nesting ≤ limit := by
  induction items with
  | nil => simp [itemNesting]
  | cons item rest ih => rw [itemNesting, Nat.max_le, ih, List.forall_mem_cons]

theorem memberNesting_le_iff {members : List (String × Json)} {limit : Nat} :
    memberNesting members ≤ limit ↔ ∀ member ∈ members, member.2.nesting ≤ limit := by
  induction members with
  | nil => simp [memberNesting]
  | cons member rest ih => rw [memberNesting, Nat.max_le, ih, List.forall_mem_cons]

mutual

def numberless : Json → Bool
  | .null | .bool _ | .string _ => true
  | .number _ => false
  | .array items => numberlessItems items
  | .object members => numberlessMembers members

def numberlessItems : List Json → Bool
  | [] => true
  | item :: rest => item.numberless && numberlessItems rest

def numberlessMembers : List (String × Json) → Bool
  | [] => true
  | (_, value) :: rest => value.numberless && numberlessMembers rest

end

theorem numberlessMembers_iff {members : List (String × Json)} :
    numberlessMembers members ↔ ∀ member ∈ members, member.2.numberless := by
  induction members with
  | nil => simp [numberlessMembers]
  | cons member rest ih => simp [numberlessMembers, ih]

end BoolQuery.Json
