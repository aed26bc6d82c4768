import BoolQuery.Proofs.Query
import BoolQuery.Proofs.Token.MaximalMunch

/-! Which queries have no tokens. Reading them one character at a time is not needed to tell: it is
enough to count the backslashes at the end and the quotes that no backslash takes away. -/
namespace BoolQuery.Token
open Lexer Text

section Counting

/-- The backslashes directly in front of the end of a text. A character behind an odd number of them is
escaped. -/
def backslashes (text : List Char) : Nat := (text.reverse.takeWhile (· = '\\')).length

/-- A double quote that is not escaped stands at an index. -/
def bareQuoteAt (text : List Char) (index : Nat) : Bool :=
  text[index]? = some '\x22' && backslashes (text.take index) % 2 = 0

/-- The bytes at which the quotes stand that are not escaped. -/
def bareQuotes (text : List Char) : List Nat :=
  ((List.range text.length).filter (bareQuoteAt text)).map fun index => byteSize (text.take index)

variable (before : List Char) (c : Char)

theorem backslashes_concat :
    backslashes (before ++ [c]) = if c = '\\' then backslashes before + 1 else 0 := by
  by_cases backslash : c = '\\' <;> simp [backslashes, backslash]

theorem bareQuoteAt_before {index : Nat} (inside : index < before.length) :
    bareQuoteAt (before ++ [c]) index = bareQuoteAt before index := by
  simp [bareQuoteAt, List.getElem?_append_left inside, List.take_append_of_le_length (Nat.le_of_lt inside)]

theorem bareQuoteAt_last :
    bareQuoteAt (before ++ [c]) before.length = (c = '\x22' && backslashes before % 2 = 0) := by
  simp [bareQuoteAt]

theorem bareQuotes_concat :
    bareQuotes (before ++ [c]) = bareQuotes before ++
      if c = '\x22' ∧ backslashes before % 2 = 0 then [byteSize before] else [] := by
  have earlier : (List.range before.length).filter (bareQuoteAt (before ++ [c])) =
      (List.range before.length).filter (bareQuoteAt before) :=
    List.filter_congr fun index member => bareQuoteAt_before before c (List.mem_range.mp member)
  have places : ((List.range before.length).filter (bareQuoteAt before)).map
        (fun index => byteSize ((before ++ [c]).take index)) = bareQuotes before := by
    apply List.map_congr_left
    intro index member
    have inside := List.mem_range.mp (List.mem_filter.mp member).1
    rw [List.take_append_of_le_length (Nat.le_of_lt inside)]
  rw [bareQuotes, List.length_append, List.length_singleton, List.range_succ, List.filter_append,
    List.map_append, earlier, places]
  by_cases bare : c = '\x22' ∧ backslashes before % 2 = 0
  · simp [bareQuoteAt_last, bare]
  · simp [bareQuoteAt_last, bare]

end Counting
end BoolQuery.Token

namespace BoolQuery.Lexer
open Token Text

section Modes

/-- Where the backslash stands that escapes the next character. -/
def Mode.escape? : Mode → Option Nat
  | .wordEscape mark _ _ | .phraseEscape mark _ _ => some mark
  | _ => none

/-- Where the phrase begins that the next character stands in. -/
def Mode.phrase? : Mode → Option Nat
  | .phrase start _ | .phraseEscape _ start _ => some start
  | _ => none

/-- One character moves the reader on by its bytes. Outside of an escape a backslash begins one and a
quote opens or closes a phrase; every other character leaves the phrase as it is. -/
structure Moves (state next : State) (c : Char) : Prop where
  offset : next.offset = state.offset + c.utf8Size
  escape : next.mode.escape? =
    if state.mode.escape? = none ∧ c = '\\' then some state.offset else none
  phrase : next.mode.phrase? =
    if state.mode.escape? = none ∧ c = '\x22' then
      if state.mode.phrase? = none then some state.offset else none
    else state.mode.phrase?

theorem moves_between (found : List Token) (offset : Nat) (c : Char) :
    Moves ⟨found, offset, .between⟩ (State.step ⟨found, offset, .between⟩ c) c := by
  by_cases delimiter : isDelimiter c
  · have other : c ≠ '\\' := by
      rintro rfl
      exact absurd delimiter (by decide)
    by_cases quote : c = '\x22'
    · subst quote
      exact ⟨rfl, rfl, rfl⟩
    by_cases blank : isBlank c
    · rw [step_blank blank]
      constructor <;> simp [Mode.escape?, Mode.phrase?, other, quote]
    obtain ⟨kind, mark⟩ := Option.isSome_iff_exists.mp (by simpa [isDelimiter, blank, quote] using delimiter)
    rw [step_punctuation mark]
    constructor <;> simp [Mode.escape?, Mode.phrase?, other, quote]
  · have goesOn : isDelimiter c = false := by simpa using delimiter
    by_cases backslash : c = '\\'
    · subst backslash
      exact ⟨rfl, rfl, rfl⟩
    · rw [step_letter goesOn backslash]
      have quote := (not_special goesOn).2.2
      constructor <;> simp [Mode.escape?, Mode.phrase?, backslash, quote]

theorem moves_step (state : State) (c : Char) : Moves state (state.step c) c := by
  obtain ⟨found, offset, mode⟩ := state
  cases mode with
  | between => exact moves_between found offset c
  | word start text escaped =>
    by_cases backslash : c = '\\'
    · subst backslash
      exact ⟨rfl, rfl, rfl⟩
    by_cases ends : isDelimiter c
    -- The word is over, and nothing of it remains in the place where the delimiter stands.
    · rw [word_step_delimiter ends]
      have moves := moves_between (⟨wordKind text escaped, start⟩ :: found) offset c
      exact ⟨moves.offset, moves.escape, moves.phrase⟩
    · have goesOn : isDelimiter c = false := by simpa using ends
      have quote := (not_special goesOn).2.2
      rw [word_step_letter goesOn backslash]
      constructor <;> simp [Mode.escape?, Mode.phrase?, backslash, quote]
  | phrase start text =>
    by_cases quote : c = '\x22'
    · subst quote
      exact ⟨rfl, rfl, rfl⟩
    by_cases backslash : c = '\\'
    · subst backslash
      exact ⟨rfl, rfl, rfl⟩
    · rw [phrase_step_letter quote backslash]
      constructor <;> simp [Mode.escape?, Mode.phrase?, backslash, quote]
  | wordEscape mark start text =>
    rw [word_step_escaped]
    constructor <;> simp [Mode.escape?, Mode.phrase?]
  | phraseEscape mark start text =>
    rw [phrase_step_escaped]
    constructor <;> simp [Mode.escape?, Mode.phrase?]

end Modes

section Runs

/-- The reader stands behind a text: an odd number of backslashes in front of it is an open escape, and
an odd number of quotes that are not escaped is an open phrase, which the last of them opened. -/
structure Behind (text : List Char) (state : State) : Prop where
  offset : state.offset = byteSize text
  escape : state.mode.escape? = if backslashes text % 2 = 1 then some (byteSize text - 1) else none
  phrase : state.mode.phrase? =
    if (bareQuotes text).length % 2 = 1 then (bareQuotes text).getLast? else none

variable {text : List Char} {state : State}

theorem Behind.escape_none_iff (behind : Behind text state) :
    state.mode.escape? = none ↔ backslashes text % 2 = 0 := by
  rw [behind.escape]
  split <;> simp <;> omega

theorem Behind.phrase_none_iff (behind : Behind text state) :
    state.mode.phrase? = none ↔ (bareQuotes text).length % 2 = 0 := by
  rw [behind.phrase]
  by_cases odd : (bareQuotes text).length % 2 = 1
  · have some : bareQuotes text ≠ [] := by
      intro empty
      rw [empty] at odd
      cases odd
    simp [odd, some]
  · simp only [odd, if_false, true_iff]
    omega

theorem behind_start : Behind [] {} := ⟨rfl, rfl, rfl⟩

theorem behind_step (behind : Behind text state) (c : Char) : Behind (text ++ [c]) (state.step c) := by
  have moves := moves_step state c
  have escape := moves.escape
  have phrase := moves.phrase
  simp only [behind.escape_none_iff, behind.phrase_none_iff, behind.offset] at escape phrase
  constructor
  · rw [moves.offset, behind.offset, byteSize_append, byteSize, byteSize, Nat.add_zero]
  · rw [escape, backslashes_concat, byteSize_append]
    by_cases backslash : c = '\\'
    · subst backslash
      have width : Char.utf8Size '\\' = 1 := by decide
      have parity : (backslashes text + 1) % 2 = 1 ↔ backslashes text % 2 = 0 := by omega
      simp [parity, byteSize, width]
    · simp [backslash]
  · rw [phrase, bareQuotes_concat]
    by_cases bare : c = '\x22' ∧ backslashes text % 2 = 0
    · have parity : ((bareQuotes text).length + 1) % 2 = 1 ↔ (bareQuotes text).length % 2 = 0 := by
        omega
      simp [bare, parity]
    · rw [if_neg bare, if_neg fun both => bare both.symm, List.append_nil]
      exact behind.phrase

theorem behind_run (behind : Behind text state) (rest : List Char) :
    Behind (text ++ rest) (state.run rest) := by
  induction rest generalizing text state with
  | nil => simpa [State.run] using behind
  | cons c rest ih =>
    rw [run_cons, List.append_cons]
    exact ih (behind_step behind c)

end Runs

section Ends

variable {state : State}

theorem finish_dangling_iff {mark : Nat} :
    state.finish = .error (.danglingEscape mark) ↔ state.mode.escape? = some mark := by
  obtain ⟨found, offset, mode⟩ := state
  cases mode <;> simp [State.finish, Mode.escape?]

-- An open escape is told before the phrase that it may stand in.
theorem finish_unterminated_iff {start : Nat} :
    state.finish = .error (.unterminatedPhrase start) ↔
      state.mode.escape? = none ∧ state.mode.phrase? = some start := by
  obtain ⟨found, offset, mode⟩ := state
  cases mode <;> simp [State.finish, Mode.escape?, Mode.phrase?]

theorem finish_ok_iff :
    (∃ tokens, state.finish = .ok tokens) ↔
      state.mode.escape? = none ∧ state.mode.phrase? = none := by
  obtain ⟨found, offset, mode⟩ := state
  cases mode <;> simp [State.finish, Mode.escape?, Mode.phrase?]

end Ends

end BoolQuery.Lexer

namespace BoolQuery.Token
open Lexer Text

section Queries

theorem ofLexer_injective : Function.Injective QueryError.ofLexer := by
  intro first second same
  cases first with
  | unterminatedPhrase start =>
    cases second with
    | unterminatedPhrase other =>
      cases same
      rfl
    | danglingEscape mark => simp [QueryError.ofLexer] at same
  | danglingEscape mark =>
    cases second with
    | unterminatedPhrase start => simp [QueryError.ofLexer] at same
    | danglingEscape other =>
      cases same
      rfl

theorem tokenize_error_iff (query : String) (cause : Lexer.Fault) :
    tokenize query = .error (.ofLexer cause) ↔ Lexer.tokenize query = .error cause := by
  rw [BoolQuery.tokenize, reported_error_iff]
  constructor
  · rintro ⟨other, failed, same⟩
    rw [ofLexer_injective same]
    exact failed
  · intro failed
    exact ⟨cause, failed, rfl⟩

/-- An odd number of backslashes at the end leaves an escape open, at the last byte. If there is none,
an odd number of quotes that are not escaped leaves a phrase open, and the last of them is where it
begins. Every other query has tokens. -/
theorem lexical_errors_by_parity (query : String) :
    (tokenize query = .error (.lexical "trailing escape character" (query.utf8ByteSize - 1)) ↔
      backslashes query.toList % 2 = 1) ∧
    (∀ position, tokenize query = .error (.lexical "unterminated quoted string" position) ↔
      backslashes query.toList % 2 = 0 ∧ (bareQuotes query.toList).length % 2 = 1 ∧
        (bareQuotes query.toList).getLast? = some position) ∧
    ((∃ tokens, tokenize query = .ok tokens) ↔
      backslashes query.toList % 2 = 0 ∧ (bareQuotes query.toList).length % 2 = 0) := by
  have behind : Behind query.toList (State.run {} query.toList) :=
    behind_run behind_start query.toList
  have size : query.utf8ByteSize = byteSize query.toList := by
    rw [← byteSize_eq, String.ofList_toList]
  have dangling (mark : Nat) : tokenize query = .error (.lexical "trailing escape character" mark) ↔ _ :=
    tokenize_error_iff query (.danglingEscape mark)
  have unterminated (start : Nat) :
      tokenize query = .error (.lexical "unterminated quoted string" start) ↔ _ :=
    tokenize_error_iff query (.unterminatedPhrase start)
  refine ⟨?_, ?_, ?_⟩
  · rw [dangling, Lexer.tokenize, finish_dangling_iff, behind.escape, size]
    simp
  · intro position
    rw [unterminated, Lexer.tokenize, finish_unterminated_iff, behind.escape_none_iff, behind.phrase]
    simp
  · simp only [BoolQuery.tokenize, reported_ok_iff, Lexer.tokenize]
    rw [finish_ok_iff, behind.escape_none_iff, behind.phrase_none_iff]

end Queries

end BoolQuery.Token
