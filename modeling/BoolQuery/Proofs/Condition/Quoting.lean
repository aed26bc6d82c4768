import BoolQuery.Proofs.Condition.Spelling
import BoolQuery.Proofs.Token.MaximalMunch

/-! When a value is written in quotes. The writer looks at the characters and the spelling of a value,
the lexer reads it from the left, and they agree: a value stands bare exactly when it is by itself
one word with its own text. -/
namespace BoolQuery

namespace Token
open Lexer Text

variable {slice text : List Char}

theorem tokenize_single {written : String} {kind : Kind} (spells : Spells written.toList kind) :
    tokenize written = .ok [⟨kind, 0⟩, ⟨.stop, written.utf8ByteSize⟩] := by
  have maximal : endsBefore written.toList [] := endsBefore_of_endsWord _ (by simp [EndsWord])
  have segmented := segmented_slice spells maximal (segmented_end (0 + byteSize written.toList))
  rw [List.append_nil, Nat.zero_add, byteSize_toList] at segmented
  exact tokenize_eq_ok_iff.mpr segmented

-- Each escape is a character of the slice that is not in the text.
theorem unescapes_length {ends : Char → Bool} (unescapes : Unescapes ends slice text) :
    text.length ≤ slice.length ∧ (text.length = slice.length → '\\' ∉ slice) := by
  induction unescapes with
  | nil => simp
  | plain isPlain _ _ ih =>
    refine ⟨Nat.succ_le_succ ih.1, fun same => ?_⟩
    rw [List.mem_cons, not_or]
    exact ⟨isPlain.symm, ih.2 (Nat.succ_inj.mp same)⟩
  | escaped _ ih =>
    simp only [List.length_cons]
    exact ⟨by omega, fun same => by omega⟩

theorem plain_of_unescapes (unescapes : Unescapes isDelimiter slice text) (plain : '\\' ∉ slice) :
    isPlainText slice := by
  induction unescapes with
  | nil => rfl
  | plain isPlain goesOn _ ih =>
    exact plain_cons.mpr ⟨⟨goesOn, isPlain⟩, ih fun member => plain (List.mem_cons_of_mem _ member)⟩
  | escaped => exact absurd List.mem_cons_self plain

theorem reserved_ne_word {word other : String} : reserved? word ≠ some (.word other) := by
  unfold reserved?
  repeat' split
  all_goals simp

theorem wordKind_eq_word {word other : String} {escaped : Bool}
    (same : wordKind word escaped = .word other) :
    word = other ∧ (escaped = false → reserved? word = none) := by
  cases escaped with
  | true => exact ⟨Kind.word.inj same, by simp⟩
  | false =>
    cases reserved : reserved? word with
    | none =>
      simp only [wordKind, reserved] at same
      exact ⟨Kind.word.inj same, fun _ => rfl⟩
    | some kind =>
      simp only [wordKind, reserved, Bool.false_eq_true, if_false, Option.getD_some] at same
      rw [same] at reserved
      exact absurd reserved reserved_ne_word

/-- A slice that spells a word is the word with its escapes, and no keyword without them. -/
theorem spells_word_cases {word : String} (spells : Spells slice (.word word)) :
    Unescapes isDelimiter slice word.toList ∧ slice ≠ [] ∧ ('\\' ∉ slice → reserved? word = none) := by
  generalize spelled : Kind.word word = kind at spells
  cases spells with
  | punctuation mark =>
    subst spelled
    unfold punctuation? at mark
    split at mark <;> simp at mark
  | phrase unescapes => cases spelled
  | word isWord unescapes =>
    obtain ⟨rfl, free⟩ := wordKind_eq_word spelled.symm
    rw [String.toList_ofList]
    exact ⟨unescapes, isWord, fun plain => free (by simpa using plain)⟩

end Token

namespace Condition
open Token Lexer

-- The word is as long as the whole value, so its slice is the value, and nothing in it is escaped.
theorem bare_of_word {value : String} {offset : Nat} {others : List Token}
    (read : tokenize value = .ok (⟨.word value, offset⟩ :: others)) : isBareValue value := by
  have segmented := tokenize_eq_ok_iff.mp read
  generalize whole : value.toList = text at segmented
  cases segmented with
  | @token _ gap slice rest _ _ blank spells maximal behind =>
    obtain ⟨unescapes, isWord, free⟩ := spells_word_cases spells
    obtain ⟨atMost, plain⟩ := unescapes_length unescapes
    rw [whole, List.length_append, List.length_append] at atMost plain
    obtain rfl : gap = [] := List.eq_nil_of_length_eq_zero (by omega)
    obtain rfl : rest = [] := List.eq_nil_of_length_eq_zero (by omega)
    rw [List.nil_append, List.append_nil] at whole
    have noEscape := plain (by simp)
    rw [isBareValue_iff, whole]
    exact ⟨isWord, free noEscape, plain_of_unescapes unescapes noEscape⟩

theorem valueText_eq_iff {value : String} : valueText value = value ↔ isBareValue value := by
  constructor
  · intro same
    by_cases bare : isBareValue value
    · exact bare
    -- The quotes alone make it longer.
    have unescapes := unescapes_escaped (· = '\x22') value.toList
    have atMost := (unescapes_length unescapes).1
    have longer := congrArg (fun text : String => text.toList.length) same
    simp only [valueText, if_neg bare, String.toList_ofList, List.length_cons, List.length_append]
      at longer
    exact absurd longer (by omega)
  · intro bare
    exact if_pos bare

/-- A value, which is written in the same way as a bound, is written as it stands exactly when it is
by itself one word with that text. Otherwise what is written is one phrase with that text. -/
theorem quoted_when_no_word (value : String) :
    (term value).toQuery = valueText value ∧ boundText (some value) = valueText value ∧
    (valueText value = value ↔
      tokenize value = .ok [⟨.word value, 0⟩, ⟨.stop, value.utf8ByteSize⟩]) ∧
    (valueText value ≠ value →
      tokenize (valueText value) =
        .ok [⟨.phrase value, 0⟩, ⟨.stop, (valueText value).utf8ByteSize⟩]) := by
  have written := tokenize_single (value_spells value)
  refine ⟨?_, rfl, ⟨fun same => ?_, fun read => valueText_eq_iff.mpr (bare_of_word read)⟩,
    fun changed => ?_⟩
  · simp [query_rendered, term, render, holdsText, fieldText]
  · rwa [same, valueKind, if_pos (valueText_eq_iff.mp same)] at written
  · rwa [valueKind, if_neg (mt valueText_eq_iff.mpr changed)] at written

-- Keywords are quoted in any letters, and the quotes and the escapes of a phrase are no part of it.
theorem keyword_in_quotes :
    valueText "tO" ≠ "tO" ∧ tokenize "tO" ≠ .ok [⟨.word "tO", 0⟩, ⟨.stop, 2⟩] ∧
      tokenize "\"tO\"" = .ok [⟨.phrase "tO", 0⟩, ⟨.stop, 4⟩] := by
  have changed : valueText "tO" ≠ "tO" := by decide +kernel
  have written : valueText "tO" = "\"tO\"" := by decide +kernel
  obtain ⟨-, -, bare, quoted⟩ := quoted_when_no_word "tO"
  have read := quoted changed
  rw [written] at read
  exact ⟨changed, fun word => changed (bare.mpr word), read⟩

end Condition

end BoolQuery
