import BoolQuery.Json.Nesting
import BoolQuery.Json.Writer
import BoolQuery.Proofs.Text.Lines

/-! The only control characters in the text of a value are the line feeds between its lines, whatever
its strings and keys contain. The writer goes on behind what is written already, so each fact is about
a text that has none so far. Numbers are left out. -/
namespace BoolQuery.Json

section Characters

def Lined (text : String) : Prop := ∀ c ∈ text.toList, c.toNat < 0x20 → c = '\n'

instance (text : String) : Decidable (Lined text) :=
  List.decidableBAll (fun c : Char => c.toNat < 0x20 → c = '\n') text.toList

theorem lined_append {first second : String} (before : Lined first) (behind : Lined second) :
    Lined (first ++ second) := by
  intro c member
  rw [String.toList_append, List.mem_append] at member
  exact member.elim (before c) (behind c)

theorem lined_newline {out : String} (before : Lined out) (level : Nat) : Lined (newline level out) := by
  intro c member
  rw [newline, Text.toList_pushn, String.toList_push, List.mem_append, List.mem_append,
    List.mem_singleton] at member
  obtain (inside | feed) | blank := member
  · exact before c inside
  · exact fun _ => feed
  · obtain rfl := List.eq_of_mem_replicate blank
    exact fun control => absurd control (by decide)

theorem digit_shown : ∀ digit < 16, 0x20 ≤ (Nat.digitChar digit).toNat := by
  decide

theorem letter_shown {c letter : Char} (escaped : controlLetter? c = some letter) :
    0x20 ≤ letter.toNat := by
  unfold controlLetter? at escaped
  split at escaped <;> cases escaped <;> decide

theorem stringChar_shown (c : Char) : ∀ shown ∈ stringChar c, 0x20 ≤ shown.toNat := by
  unfold stringChar
  split
  · next special =>
    have full : 0x20 ≤ c.toNat := by
      obtain rfl | rfl : c = '\x22' ∨ c = '\\' := by simpa using special
      all_goals decide
    simp [full]
  split
  · next letter escaped => simp [letter_shown escaped]
  split
  · next control =>
    have high := digit_shown (c.toNat / 16) (by omega)
    have low := digit_shown (c.toNat % 16) (by omega)
    simp [high, low]
  · next full => simpa using full

theorem lined_stringText (text : String) : Lined (stringText text) := by
  intro c member control
  rw [stringText, String.toList_ofList, List.cons_append, List.mem_cons, List.mem_append,
    List.mem_flatMap, List.mem_singleton] at member
  obtain rfl | ⟨original, -, shown⟩ | rfl := member
  · exact absurd control (by decide)
  · exact absurd control (Nat.not_lt.mpr (stringChar_shown original c shown))
  · exact absurd control (by decide)

theorem lined_key {out : String} (before : Lined out) (level : Nat) (key : String) :
    Lined (newline level out ++ stringText key ++ ": ") :=
  lined_append (lined_append (lined_newline before level) (lined_stringText key)) (by decide)

end Characters

section Values

mutual

theorem lined_value (value : Json) (plain : value.numberless) {out : String} (before : Lined out)
    (level : Nat) : Lined (writeValue level out value) := by
  match value with
  | .null => exact lined_append before (by decide)
  | .bool value => exact lined_append before (by cases value <;> decide)
  | .number value => cases plain
  | .string text => exact lined_append before (lined_stringText text)
  | .array [] => exact lined_append before (by decide)
  | .array (first :: rest) =>
    simp only [numberless, numberlessItems, Bool.and_eq_true] at plain
    have opened := lined_newline (lined_append before (by decide : Lined "[")) (level + 1)
    have items := lined_items rest plain.2 (lined_value first plain.1 opened (level + 1)) level
    exact lined_append (lined_newline items level) (by decide)
  | .object [] => exact lined_append before (by decide)
  | .object ((key, first) :: rest) =>
    simp only [numberless, numberlessMembers, Bool.and_eq_true] at plain
    have named := lined_key (lined_append before (by decide : Lined "\x7b")) (level + 1) key
    have members := lined_members rest plain.2 (lined_value first plain.1 named (level + 1)) level
    exact lined_append (lined_newline members level) (by decide)

theorem lined_items (items : List Json) (plain : numberlessItems items) {out : String}
    (before : Lined out) (level : Nat) : Lined (writeItems level out items) := by
  match items with
  | [] => exact before
  | item :: rest =>
    simp only [numberlessItems, Bool.and_eq_true] at plain
    have behind := lined_newline (lined_append before (by decide : Lined ",")) (level + 1)
    exact lined_items rest plain.2 (lined_value item plain.1 behind (level + 1)) level

theorem lined_members (members : List (String × Json)) (plain : numberlessMembers members)
    {out : String} (before : Lined out) (level : Nat) : Lined (writeMembers level out members) := by
  match members with
  | [] => exact before
  | (key, value) :: rest =>
    simp only [numberlessMembers, Bool.and_eq_true] at plain
    have named := lined_key (lined_append before (by decide : Lined ",")) (level + 1) key
    exact lined_members rest plain.2 (lined_value value plain.1 named (level + 1)) level

end

theorem lined_pretty {value : Json} (plain : value.numberless) : Lined value.pretty :=
  lined_value value plain (by decide) 0

theorem escape_not_mem_pretty {value : Json} (plain : value.numberless) :
    '\x1b' ∉ value.pretty.toList := by
  intro member
  exact absurd (lined_pretty plain _ member (by decide)) (by decide)

end Values

end BoolQuery.Json
