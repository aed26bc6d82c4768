import BoolQuery.Json.Nesting
import BoolQuery.Json.Reorder

/-! Reordering the members of objects changes neither how deeply a value is nested nor whether it has
numbers. -/
namespace BoolQuery.Json

theorem memberNesting_perm {first second : List (String × Json)} (order : first.Perm second) :
    memberNesting first = memberNesting second := by
  induction order with
  | nil => rfl
  | cons member order ih => simp only [memberNesting, ih]
  | swap member other rest =>
    simp only [memberNesting]
    omega
  | trans one two ih ih' => exact ih.trans ih'

theorem numberlessMembers_perm {first second : List (String × Json)} (order : first.Perm second) :
    numberlessMembers first = numberlessMembers second := by
  rw [Bool.eq_iff_iff, numberlessMembers_iff, numberlessMembers_iff]
  exact ⟨fun plain member inside => plain member (order.mem_iff.mpr inside),
    fun plain member inside => plain member (order.mem_iff.mp inside)⟩

mutual

theorem nesting_reordered {value other : Json} (reordered : Reordered value other) :
    value.nesting = other.nesting ∧ value.numberless = other.numberless := by
  match reordered with
  | .null | .bool _ | .number _ | .string _ => exact ⟨rfl, rfl⟩
  | .array items =>
    obtain ⟨depth, plain⟩ := itemNesting_reordered items
    simp only [nesting, numberless, depth, plain, and_self]
  | .object members order =>
    obtain ⟨depth, plain⟩ := memberNesting_reordered members
    simp only [nesting, numberless, depth, plain, memberNesting_perm order,
      numberlessMembers_perm order, and_self]

theorem itemNesting_reordered {first second : List Json} (items : ReorderedItems first second) :
    itemNesting first = itemNesting second ∧ numberlessItems first = numberlessItems second := by
  match items with
  | .nil => exact ⟨rfl, rfl⟩
  | .cons inside rest =>
    obtain ⟨depth, plain⟩ := nesting_reordered inside
    obtain ⟨depths, plains⟩ := itemNesting_reordered rest
    simp only [itemNesting, numberlessItems, depth, plain, depths, plains, and_self]

theorem memberNesting_reordered {first second : List (String × Json)}
    (members : ReorderedMembers first second) :
    memberNesting first = memberNesting second ∧
      numberlessMembers first = numberlessMembers second := by
  match members with
  | .nil => exact ⟨rfl, rfl⟩
  | .cons _ inside rest =>
    obtain ⟨depth, plain⟩ := nesting_reordered inside
    obtain ⟨depths, plains⟩ := memberNesting_reordered rest
    simp only [memberNesting, numberlessMembers, depth, plain, depths, plains, and_self]

end

end BoolQuery.Json
