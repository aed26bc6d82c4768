import BoolQuery.Proofs.Parser.NestingLimit
import BoolQuery.Proofs.QueryError.Refused
import BoolQuery.Proofs.QueryError.Report
import BoolQuery.Proofs.Token.Parity
import Mathlib.Data.List.Induction

/-! Where a query is wrong. The byte that a report tells lies between two characters of the query, in front
of what is left open or of the token that is refused, and the caret stands under it. -/
namespace BoolQuery

namespace Token
open Lexer Text

section Places

/-- What a query without tokens leaves open, with the wording of it: the last quote, which begins a phrase,
or the backslash at the end. -/
inductive LeavesOpen (before : List Char) : List Char → String → Prop
  | phrase {after : List Char} (unescaped : backslashes before % 2 = 0)
    (outside : (bareQuotes before).length % 2 = 0)
    (unclosed : bareQuotes (before ++ '\x22' :: after) = bareQuotes before ++ [byteSize before]) :
    LeavesOpen before ('\x22' :: after) "unterminated quoted string"
  | escape (unescaped : backslashes before % 2 = 0) :
    LeavesOpen before ['\\'] "trailing escape character"

variable {offset : Nat} {text : List Char} {tokens : List Token}

theorem last_bareQuote {position : Nat} (last : (bareQuotes text).getLast? = some position) :
    ∃ before after, text = before ++ '\x22' :: after ∧ byteSize before = position ∧
      backslashes before % 2 = 0 ∧ bareQuotes text = bareQuotes before ++ [position] := by
  -- The last character is the quote, or the quote is in front of it.
  induction text using List.reverseRecOn with
  | nil => cases last
  | append_singleton text c ih =>
    rw [bareQuotes_concat] at last ⊢
    by_cases bare : c = '\x22' ∧ backslashes text % 2 = 0
    · rw [if_pos bare] at last ⊢
      obtain rfl : byteSize text = position := by simpa using last
      obtain ⟨rfl, unescaped⟩ := bare
      exact ⟨text, [], rfl, rfl, unescaped, rfl⟩
    · rw [if_neg bare, List.append_nil] at last ⊢
      obtain ⟨before, after, rfl, place, unescaped, quotes⟩ := ih last
      exact ⟨before, after ++ [c], by simp, place, unescaped, quotes⟩

theorem last_backslash (odd : backslashes text % 2 = 1) :
    ∃ before, text = before ++ ['\\'] ∧ backslashes before % 2 = 0 := by
  induction text using List.reverseRecOn with
  | nil => cases odd
  | append_singleton text c ih =>
    rw [backslashes_concat] at odd
    by_cases backslash : c = '\\'
    · subst backslash
      rw [if_pos rfl] at odd
      exact ⟨text, rfl, by omega⟩
    · rw [if_neg backslash] at odd
      cases odd

theorem leavesOpen_of_error {query : String} {cause : Lexer.Fault}
    (failed : Lexer.tokenize query = .error cause) :
    ∃ reason before after, QueryError.ofLexer cause = .lexical reason (byteSize before) ∧
      query.toList = before ++ after ∧ LeavesOpen before after reason := by
  have behind : Behind query.toList (State.run {} query.toList) :=
    behind_run behind_start query.toList
  cases cause with
  | unterminatedPhrase start =>
    obtain ⟨-, phrase⟩ := finish_unterminated_iff.mp failed
    have odd : (bareQuotes query.toList).length % 2 = 1 := by
      by_contra even
      rw [behind.phrase, if_neg even] at phrase
      cases phrase
    rw [behind.phrase, if_pos odd] at phrase
    obtain ⟨before, after, whole, rfl, unescaped, quotes⟩ := last_bareQuote phrase
    rw [quotes, List.length_append, List.length_singleton] at odd
    rw [whole] at quotes
    exact ⟨_, before, _, rfl, whole, .phrase unescaped (by omega) quotes⟩
  | danglingEscape mark =>
    have escape := finish_dangling_iff.mp failed
    have odd : backslashes query.toList % 2 = 1 := by
      by_contra even
      rw [behind.escape, if_neg even] at escape
      cases escape
    obtain ⟨before, whole, unescaped⟩ := last_backslash odd
    have width : Char.utf8Size '\\' = 1 := by decide
    have place : byteSize before = mark := by
      rw [behind.escape, if_pos odd, whole, byteSize_append] at escape
      simpa [byteSize, width] using escape
    subst place
    exact ⟨_, before, _, rfl, whole, .escape unescaped⟩

/-- A token starts between two characters, and only the stop has none behind it. -/
theorem segmented_places (segmented : Segmented offset text tokens) :
    ∀ token ∈ tokens, ∃ before after, text = before ++ after ∧
      token.offset = offset + byteSize before ∧ (token.kind = .stop ↔ after = []) := by
  induction segmented with
  | @stop offset gap blank =>
    intro token member
    obtain rfl := List.mem_singleton.mp member
    exact ⟨gap, [], by simp, rfl, by simp⟩
  | @token offset gap slice rest kind tokens blank spells maximal others ih =>
    intro token member
    rcases List.mem_cons.mp member with rfl | later
    · have some : slice ++ rest ≠ [] := List.append_ne_nil_of_left_ne_nil (spells_ne_nil spells) rest
      exact ⟨gap, slice ++ rest, List.append_assoc gap slice rest, rfl,
        iff_of_false (spells_ne_stop spells) some⟩
    · obtain ⟨before, after, rfl, place, stops⟩ := ih token later
      refine ⟨gap ++ slice ++ before, after, by simp, ?_, stops⟩
      rw [place, byteSize_append, byteSize_append]
      omega

theorem segmented_stop_iff {stop : Token} :
    Segmented offset text [stop] ↔ (∀ c ∈ text, isBlank c) ∧ stop = ⟨.stop, offset + byteSize text⟩ := by
  constructor
  · intro segmented
    cases segmented with
    | stop blank => exact ⟨blank, rfl⟩
    | token blank spells maximal others => cases others
  · rintro ⟨blank, rfl⟩
    exact .stop blank

end Places
end Token

namespace QueryError
open Text

section Caret

theorem charsBefore_split (before after : List Char) (offset count : Nat) :
    charsBefore (offset + byteSize before) offset count (before ++ after) = count + before.length := by
  induction before generalizing offset count with
  | nil => cases after <;> simp [charsBefore, byteSize]
  | cons c before ih =>
    have inside : offset < offset + byteSize (c :: before) :=
      Nat.lt_add_of_pos_right (Lexer.byteSize_pos (List.cons_ne_nil c before))
    rw [List.cons_append, charsBefore, if_pos inside, byteSize, ← Nat.add_assoc, ih, List.length_cons]
    omega

theorem lines_third {first second third : List Char} (one : '\n' ∉ first) (two : '\n' ∉ second)
    (three : '\n' ∉ third) (rest : List Char) :
    (linesFrom [] (first ++ '\n' :: (second ++ '\n' :: (third ++ '\n' :: rest))))[2]? =
      some (dropReturn third.reverse).reverse := by
  rw [linesFrom_feed one, linesFrom_feed two, linesFrom_feed three]
  simp

/-- The caret of a report on one line is on the third line, under the character behind the position. -/
theorem caret_line {error : QueryError} {query : String} {before after : List Char}
    (reasonWhole : '\n' ∉ error.reason.toList) (queryWhole : '\n' ∉ query.toList)
    (whole : query.toList = before ++ after) (place : error.position? = some (byteSize before)) :
    (lines (error.render query))[2]? =
      some (String.ofList (List.replicate (2 + before.length) ' ' ++ ['^'])) := by
  have column : charsBefore (byteSize before) 0 0 query.toList = before.length := by
    simpa [whole] using charsBefore_split before after 0 0
  have caret : (error.caret query).toList = List.replicate (2 + before.length) ' ' ++ ['^', '\n'] := by
    rw [QueryError.caret, place, ← column]
    exact toList_caretLine query (byteSize before)
  have first : '\n' ∉ "query syntax error: ".toList ++ error.reason.toList := by
    rw [← String.toList_append]
    exact append_whole (by decide) reasonWhole
  have second : '\n' ∉ ' ' :: ' ' :: query.toList := by simp [queryWhole]
  have third : '\n' ∉ List.replicate (2 + before.length) ' ' ++ ['^'] := by simp
  have written : (error.caret query).toList ++ error.advice.toList =
      (List.replicate (2 + before.length) ' ' ++ ['^']) ++ '\n' :: error.advice.toList := by simp [caret]
  rw [lines, toList_render, written, List.getElem?_map, lines_third first second third]
  simp [dropReturn]

end Caret

end QueryError

section Reports

open Token Text

variable {query : String} {limit : Nat} {error : QueryError}

theorem blank_of_position_none (failed : parse query limit = .error error)
    (unknown : error.position? = none) :
    error.reason = "empty query" ∧ ∀ c ∈ query.toList, isBlank c := by
  cases refused_of_error failed with
  | @lexical cause unread => cases cause <;> cases unknown
  | grammatical read faults =>
    cases faults with
    | empty only =>
      subst only
      exact ⟨rfl, (segmented_stop_iff.mp (tokenize_eq_ok_iff.mp read)).1⟩
    | tooDeep member => cases unknown
    | trailing member => cases unknown
    | unexpected member complains => cases unknown

theorem position_none_of_blank (failed : parse query limit = .error error)
    (blank : ∀ c ∈ query.toList, isBlank c) : error.position? = none := by
  have read : tokenize query = .ok [⟨.stop, 0 + byteSize query.toList⟩] :=
    tokenize_eq_ok_iff.mpr (segmented_stop_iff.mpr ⟨blank, rfl⟩)
  obtain ⟨fault, refused, rfl⟩ := parse_error_tokens read failed
  rw [Parser.parseTokens_stop rfl] at refused
  cases refused
  rfl

theorem token_place {tokens : List Token} {token : Token} (read : tokenize query = .ok tokens)
    (member : token ∈ tokens) :
    ∃ before after, query.toList = before ++ after ∧ byteSize before = token.offset ∧
      (token.offset = query.utf8ByteSize ↔ token.kind = .stop) := by
  obtain ⟨before, after, whole, place, stops⟩ :=
    segmented_places (tokenize_eq_ok_iff.mp read) token member
  rw [Nat.zero_add] at place
  refine ⟨before, after, whole, place.symm, ?_⟩
  rw [← byteSize_toList, whole, Lexer.byteSize_append, place, stops]
  constructor
  · intro atEnd
    by_contra some
    have := Lexer.byteSize_pos some
    omega
  · rintro rfl
    rfl

theorem place_in_query {position : Nat} (failed : parse query limit = .error error)
    (place : error.position? = some position) :
    ∃ before after, query.toList = before ++ after ∧ byteSize before = position := by
  cases refused_of_error failed with
  | lexical unread =>
    obtain ⟨reason, before, after, same, whole, -⟩ := leavesOpen_of_error unread
    rw [same] at place
    exact ⟨before, after, whole, Option.some.inj place⟩
  | @grammatical tokens fault read faults =>
    have of_token (token : Token) (member : token ∈ tokens) :
        ∃ before after, query.toList = before ++ after ∧ byteSize before = token.offset := by
      obtain ⟨before, after, whole, place, -⟩ := token_place read member
      exact ⟨before, after, whole, place⟩
    cases faults with
    | empty only => cases place
    | tooDeep member | trailing member | unexpected member complains =>
      cases place
      exact of_token _ member

theorem lexical_place {reason : String} {position : Nat}
    (failed : parse query limit = .error (.lexical reason position)) :
    ∃ before after, query.toList = before ++ after ∧ byteSize before = position ∧
      LeavesOpen before after reason := by
  generalize reported : QueryError.lexical reason position = error at failed
  cases refused_of_error failed with
  | lexical unread =>
    obtain ⟨wording, before, after, same, whole, leaves⟩ := leavesOpen_of_error unread
    cases reported.trans same
    exact ⟨before, after, whole, rfl, leaves⟩
  | grammatical read faults => cases reported

theorem grammatical_place {reason : String} {position : Nat}
    (failed : parse query limit = .error (.grammatical reason (some position))) :
    ∃ tokens token, tokenize query = .ok tokens ∧ token ∈ tokens ∧ token.offset = position ∧
      (reason ≠ "unexpected trailing input" → reason ≠ Parser.deepReason limit →
        ∃ lead, reason = lead ++ ", found " ++ token.kind.describe) := by
  generalize reported : QueryError.grammatical reason (some position) = error at failed
  cases refused_of_error failed with
  | @lexical cause unread => cases cause <;> cases reported
  | grammatical read faults =>
    cases faults with
    | empty only => cases reported
    | tooDeep member =>
      cases reported
      exact ⟨_, _, read, member, rfl, fun _ other => absurd rfl other⟩
    | trailing member =>
      cases reported
      exact ⟨_, _, read, member, rfl, fun other _ => absurd rfl other⟩
    | @unexpected token lack member complains =>
      cases reported
      exact ⟨_, _, read, member, rfl, fun _ _ => ⟨lack.message, rfl⟩⟩

/-- The report of a query tells no place just when the query is blank. A place lies between two characters,
with the caret under it if the query is on one line. Without tokens it is in front of what is left open,
else it is where a token starts, which is the one that the reason says was found. -/
theorem reported_places_are_exact (failed : parse query limit = .error error) :
    (error.position? = none ↔ ∀ c ∈ query.toList, c = ' ' ∨ c = '\t') ∧
    (error.position? = none → error.reason = "empty query") ∧
    (∀ position, error.position? = some position → ∃ before after,
      query.toList = before ++ after ∧ byteSize before = position ∧ position ≤ query.utf8ByteSize ∧
        ('\n' ∉ query.toList → (lines (error.render query))[2]? =
          some (String.ofList (List.replicate (2 + before.length) ' ' ++ ['^'])))) ∧
    (∀ reason position, error = .lexical reason position → ∃ before after,
      query.toList = before ++ after ∧ byteSize before = position ∧ position < query.utf8ByteSize ∧
        LeavesOpen before after reason) ∧
    ∀ reason position, error = .grammatical reason (some position) → ∃ tokens token,
      tokenize query = .ok tokens ∧ token ∈ tokens ∧ token.offset = position ∧
        (position = query.utf8ByteSize ↔ token.kind = .stop) ∧
        (reason ≠ "unexpected trailing input" → reason ≠ Parser.deepReason limit →
          ∃ lead, reason = lead ++ ", found " ++ token.kind.describe) := by
  have blank : error.position? = none ↔ ∀ c ∈ query.toList, isBlank c :=
    ⟨fun unknown => (blank_of_position_none failed unknown).2, position_none_of_blank failed⟩
  refine ⟨?_, fun unknown => (blank_of_position_none failed unknown).1, ?_, ?_, ?_⟩
  · simpa only [isBlank_iff] using blank
  · intro position place
    obtain ⟨before, after, whole, rfl⟩ := place_in_query failed place
    refine ⟨before, after, whole, rfl, ?_, fun one => ?_⟩
    · rw [← byteSize_toList, whole, Lexer.byteSize_append]
      exact Nat.le_add_right _ _
    · exact QueryError.caret_line (reason_whole failed one) one whole place
  · rintro reason position rfl
    obtain ⟨before, after, whole, rfl, leaves⟩ := lexical_place failed
    have some : after ≠ [] := by cases leaves <;> simp
    have size := Lexer.byteSize_pos some
    refine ⟨before, after, whole, rfl, ?_, leaves⟩
    rw [← byteSize_toList, whole, Lexer.byteSize_append]
    omega
  · rintro reason position rfl
    obtain ⟨tokens, token, read, member, rfl, found⟩ := grammatical_place failed
    obtain ⟨-, -, -, -, stops⟩ := token_place read member
    exact ⟨tokens, token, read, member, rfl, stops, found⟩

-- Six bytes, but four characters, stand in front of the end of the query.
theorem caret_behind_open_group :
    parse "é (ü" 64 = .error (.grammatical "expected ')' to close group, found end of query" (some 6)) ∧
      (lines (QueryError.render (.grammatical "expected ')' to close group, found end of query" (some 6))
        "é (ü"))[2]? = some "      ^" := by
  have read : tokenize "é (ü" = .ok [⟨.word "é", 0⟩, ⟨.openParen, 3⟩, ⟨.word "ü", 4⟩, ⟨.stop, 6⟩] :=
    tokenize_of_found (by decide +kernel)
  have failed : parse "é (ü" 64 =
      .error (.grammatical "expected ')' to close group, found end of query" (some 6)) := by
    rw [parse_of_tokens read]
    rfl
  obtain ⟨-, -, places, -, -⟩ := reported_places_are_exact failed
  obtain ⟨before, after, whole, size, -, caret⟩ := places 6 rfl
  have spelled : "é (ü".toList = ['é', ' ', '(', 'ü'] := rfl
  have all : byteSize ['é', ' ', '(', 'ü'] = 6 := by decide
  have nothing : after = [] := by
    by_contra some
    have := Lexer.byteSize_pos some
    rw [← spelled, whole, Lexer.byteSize_append] at all
    omega
  obtain rfl : ['é', ' ', '(', 'ü'] = before := by simpa [spelled, nothing] using whole
  exact ⟨failed, caret (by simp [spelled])⟩

end Reports
end BoolQuery
