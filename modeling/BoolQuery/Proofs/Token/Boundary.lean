import BoolQuery.Proofs.Token.Parity

/-! A text behind another one that ends with a token. The lexer reads it as if nothing stood in front:
the tokens, or what is wrong, are those of the text alone, moved by the bytes in front of it. -/
namespace BoolQuery

/-- A token as it stands behind some bytes. -/
def Token.moved (bytes : Nat) (token : Token) : Token := ⟨token.kind, token.offset + bytes⟩

namespace Lexer
open Token Text

section Moving

def Mode.moved (bytes : Nat) : Mode → Mode
  | .between => .between
  | .word start text escaped => .word (start + bytes) text escaped
  | .phrase start text => .phrase (start + bytes) text
  | .wordEscape mark start text => .wordEscape (mark + bytes) (start + bytes) text
  | .phraseEscape mark start text => .phraseEscape (mark + bytes) (start + bytes) text

def State.moved (earlier : List Token) (bytes : Nat) (state : State) : State :=
  ⟨state.found.map (Token.moved bytes) ++ earlier, state.offset + bytes, state.mode.moved bytes⟩

def Fault.moved (bytes : Nat) : Fault → Fault
  | .unterminatedPhrase start => .unterminatedPhrase (start + bytes)
  | .danglingEscape mark => .danglingEscape (mark + bytes)

/-- The outcome of a text behind some bytes, in which some tokens were found. -/
def movedOutcome (earlier : List Token) (bytes : Nat) :
    Except Fault (List Token) → Except Fault (List Token)
  | .ok tokens => .ok (earlier ++ tokens.map (Token.moved bytes))
  | .error fault => .error (fault.moved bytes)

variable (earlier : List Token) (bytes : Nat)

theorem step_between_moved (found : List Token) (offset : Nat) (c : Char) :
    State.step (State.moved earlier bytes ⟨found, offset, .between⟩) c =
      (State.step ⟨found, offset, .between⟩ c).moved earlier bytes := by
  have start : State.moved earlier bytes ⟨found, offset, .between⟩ =
      ⟨found.map (Token.moved bytes) ++ earlier, offset + bytes, .between⟩ := rfl
  rw [start]
  by_cases blank : isBlank c
  · rw [step_blank blank, step_blank blank]
    simp [State.moved, Mode.moved, Nat.add_right_comm]
  cases mark : punctuation? c with
  | some kind =>
    rw [step_punctuation mark, step_punctuation mark]
    simp [State.moved, Mode.moved, Token.moved, Nat.add_right_comm]
  | none =>
    by_cases quote : c = '\x22'
    · subst quote
      rw [step_quote, step_quote]
      simp [State.moved, Mode.moved, Nat.add_right_comm]
    have goesOn : isDelimiter c = false := by simp [isDelimiter, blank, mark, quote]
    by_cases backslash : c = '\\'
    · subst backslash
      rw [step_backslash, step_backslash]
      simp [State.moved, Mode.moved, Nat.add_right_comm]
    · rw [step_letter goesOn backslash, step_letter goesOn backslash]
      simp [State.moved, Mode.moved, Nat.add_right_comm]

theorem step_moved (state : State) (c : Char) :
    (state.moved earlier bytes).step c = (state.step c).moved earlier bytes := by
  obtain ⟨found, offset, mode⟩ := state
  cases mode with
  | between => exact step_between_moved earlier bytes found offset c
  | word start text escaped =>
    by_cases ends : isDelimiter c
    · -- The delimiter is read behind the word, which is a token by then.
      rw [word_step_delimiter ends, ← step_between_moved]
      simp only [State.moved, Mode.moved, word_step_delimiter ends]
      rfl
    by_cases backslash : c = '\\'
    · simp [State.step, State.moved, Mode.moved, backslash, Nat.add_right_comm]
    · simp [State.step, State.moved, Mode.moved, backslash, ends, Nat.add_right_comm]
  | phrase start text =>
    by_cases quote : c = '\x22'
    · simp [State.step, State.moved, Mode.moved, Token.moved, quote, Nat.add_right_comm]
    by_cases backslash : c = '\\'
    · simp [State.step, State.moved, Mode.moved, backslash, Nat.add_right_comm]
    · simp [State.step, State.moved, Mode.moved, quote, backslash, Nat.add_right_comm]
  | wordEscape mark start text =>
    simp [State.step, State.moved, Mode.moved, Nat.add_right_comm]
  | phraseEscape mark start text =>
    simp [State.step, State.moved, Mode.moved, Nat.add_right_comm]

theorem run_moved (state : State) (text : List Char) :
    (state.moved earlier bytes).run text = (state.run text).moved earlier bytes := by
  induction text generalizing state with
  | nil => rfl
  | cons c rest ih => rw [run_cons, run_cons, step_moved, ih]

theorem finish_moved (state : State) :
    (state.moved earlier bytes).finish = movedOutcome earlier.reverse bytes state.finish := by
  obtain ⟨found, offset, mode⟩ := state
  cases mode <;> simp [State.finish, State.moved, Mode.moved, Token.moved, Fault.moved, movedOutcome]

/-- Between two tokens the reader is as at the beginning of a text. -/
theorem finish_between (found : List Token) (offset : Nat) (text : List Char) :
    (State.run ⟨found, offset, .between⟩ text).finish =
      movedOutcome found.reverse offset (State.run {} text).finish := by
  have start : (⟨found, offset, .between⟩ : State) = State.moved found offset {} := by
    simp [State.moved, Mode.moved]
  rw [start, run_moved, finish_moved]

end Moving

section Gaps

variable {text gap : List Char} {pieces : List Piece}

theorem endsWord_front {first second : List Char} (ends : EndsWord (first ++ second)) :
    EndsWord first := by
  cases first with
  | nil => simp [EndsWord]
  | cons c rest => exact ends

theorem spellsBefore_front {slice front : List Char} {kind : Kind}
    (spells : SpellsBefore (front ++ gap) slice kind) : SpellsBefore front slice kind := by
  cases spells with
  | mark listed => exact .mark listed
  | phrase unescapes => exact .phrase unescapes
  | keyword isWord unescapes maximal reserved =>
    exact .keyword isWord unescapes (endsWord_front maximal) reserved
  | word isWord unescapes maximal free =>
    exact .word isWord unescapes (endsWord_front maximal) free

theorem layout_front {front : List Char} (layout : Layout text pieces (front ++ gap)) :
    Layout (joined pieces ++ front) pieces front where
  whole := rfl
  gaps := layout.gaps
  lastGap := fun c member => layout.lastGap c (List.mem_append_left gap member)
  spelled := by
    intro before piece behind split
    have spells := layout.spelled before piece behind split
    rw [← List.append_assoc] at spells
    exact spellsBefore_front spells

/-- Behind a text whose last slice is followed by a gap, the reader stands between two tokens. -/
theorem between_of_gap (layout : Layout text pieces gap) (some : gap ≠ []) :
    ∃ found offset, State.run {} text = ⟨found, offset, .between⟩ := by
  rcases List.eq_nil_or_concat gap with rfl | ⟨front, c, rfl⟩
  · exact absurd rfl some
  rw [List.concat_eq_append] at layout
  have blank : isBlank c := isBlank_iff.mpr (layout.lastGap c (by simp))
  -- In front of its last blank the text is laid out as well, so no escape and no phrase is open there.
  have shorter := finish_of_segmented (segmented_of_layout (layout_front layout) 0) []
  obtain ⟨noEscape, noPhrase⟩ := finish_ok_iff.mp ⟨_, shorter⟩
  rw [layout.whole, ← List.append_assoc, run_append]
  cases reached : State.run ⟨[], 0, .between⟩ (joined pieces ++ front) with
  | mk found offset mode =>
    rw [reached] at noEscape noPhrase
    cases mode with
    | between => exact ⟨_, _, step_blank blank⟩
    | word start word escaped =>
      have ends : isDelimiter c := by simp [isDelimiter, blank]
      exact ⟨_, _, (word_step_delimiter ends).trans (step_blank blank)⟩
    | phrase start word => simp [Mode.phrase?] at noPhrase
    | wordEscape mark start word => simp [Mode.escape?] at noEscape
    | phraseEscape mark start word => simp [Mode.escape?] at noEscape

end Gaps
end Lexer

namespace Token
open Lexer Text

section Boundaries

/-- Between two texts, the first of which has some tokens, a token ends and no other goes on. -/
inductive Parted (first second : List Char) (tokens : List Token) : Prop
  /-- Nothing follows, or a delimiter does. -/
  | delimited (ends : EndsWord second)
  /-- There is no token. -/
  | blank (none : tokens = [])
  /-- The last token is a punctuation character or a phrase. -/
  | closed {before : List Token} {last : Token} (split : tokens = before ++ [last])
    (kind : (∃ c, (c, last.kind) ∈ marks) ∨ ∃ text, last.kind = .phrase text)
  /-- The slice of the last token ends in front of a gap. -/
  | apart {pieces : List Piece} {gap : List Char} (layout : Layout first pieces gap) (some : gap ≠ [])

variable {first second : List Char} {tokens : List Token} {stop : Token}

theorem word_not_closed (text : String) (escaped : Bool) :
    ¬ ((∃ c, (c, wordKind text escaped) ∈ marks) ∨ ∃ other, wordKind text escaped = .phrase other) := by
  have listed := wordKind_cases text escaped
  generalize wordKind text escaped = kind at listed
  simp only [List.mem_cons, List.not_mem_nil, or_false] at listed
  rcases listed with rfl | rfl | rfl | rfl | rfl | rfl <;> simp [marks]

/-- Behind a bare word, the word ends there only if a delimiter or the end of the text follows. -/
theorem endsWord_of_parted {found : List Token} {offset start : Nat} {text : String} {escaped : Bool}
    (word : State.run {} first = ⟨found, offset, .word start text escaped⟩)
    (spelled : tokens = found.reverse ++ [⟨wordKind text escaped, start⟩])
    (parted : Parted first second tokens) : EndsWord second := by
  cases parted with
  | delimited ends => exact ends
  | blank none => simp [none] at spelled
  | closed split kind =>
    rw [split] at spelled
    obtain ⟨-, only⟩ := List.append_inj' spelled rfl
    cases only
    exact absurd kind (word_not_closed text escaped)
  | apart layout some =>
    obtain ⟨others, place, between⟩ := between_of_gap layout some
    simp [word] at between

theorem finish_parted (read : (State.run {} first).finish = .ok (tokens ++ [stop]))
    (parted : Parted first second tokens) :
    (State.run {} (first ++ second)).finish =
      movedOutcome tokens (byteSize first) (State.run {} second).finish := by
  have place : (State.run {} first).offset = byteSize first := (behind_run behind_start first).offset
  rw [run_append]
  cases state : State.run {} first with
  | mk found offset mode =>
    rw [state] at read place
    subst place
    cases mode with
    | between =>
      have split : found.reverse ++ [⟨.stop, byteSize first⟩] = tokens ++ [stop] := by
        simpa [State.finish] using read
      obtain ⟨rfl, -⟩ := List.append_inj' split rfl
      exact finish_between found (byteSize first) second
    | word start text escaped =>
      have split : found.reverse ++ [⟨wordKind text escaped, start⟩] ++ [⟨.stop, byteSize first⟩] =
          tokens ++ [stop] := by
        simpa [State.finish] using read
      obtain ⟨rfl, -⟩ := List.append_inj' split rfl
      rw [finish_word (endsWord_of_parted state rfl parted), finish_between, List.reverse_cons]
    | phrase start text => simp [State.finish] at read
    | wordEscape mark start text => simp [State.finish] at read
    | phraseEscape mark start text => simp [State.finish] at read

/-- Behind a text that ends with a token, the tokens are those of the rest moved by the bytes of the text;
if the rest has none, what is wrong with it is told at the place where it then stands. -/
theorem tokens_behind_boundary {first second : String} {tokens : List Token} {stop : Token}
    (read : tokenize first = .ok (tokens ++ [stop]))
    (parted : Parted first.toList second.toList tokens) :
    (∀ others, tokenize second = .ok others →
      tokenize (first ++ second) = .ok (tokens ++ others.map (Token.moved first.utf8ByteSize))) ∧
    ∀ error, tokenize second = .error error → ∃ reason position, error = .lexical reason position ∧
      tokenize (first ++ second) = .error (.lexical reason (position + first.utf8ByteSize)) := by
  have whole : Lexer.tokenize (first ++ second) =
      movedOutcome tokens first.utf8ByteSize (Lexer.tokenize second) := by
    rw [BoolQuery.tokenize, reported_ok_iff] at read
    rw [Lexer.tokenize, String.toList_append, ← byteSize_toList]
    exact finish_parted read parted
  constructor
  · intro others found
    rw [BoolQuery.tokenize, reported_ok_iff] at found ⊢
    rw [whole, found]
    rfl
  · intro error failed
    rw [BoolQuery.tokenize, reported_error_iff] at failed
    obtain ⟨cause, failed, rfl⟩ := failed
    have moved : tokenize (first ++ second) = .error (.ofLexer (cause.moved first.utf8ByteSize)) := by
      rw [tokenize_error_iff, whole, failed]
      rfl
    cases cause with
    | unterminatedPhrase start => exact ⟨_, _, rfl, moved⟩
    | danglingEscape mark => exact ⟨_, _, rfl, moved⟩

-- The blank behind the backslash belongs to the word; only the one behind it is a gap.
theorem behind_escaped_blank :
    tokenize "é\\  " = .ok [⟨.word "é ", 0⟩, ⟨.stop, 5⟩] ∧
      tokenize ("é\\  " ++ "b") = .ok [⟨.word "é ", 0⟩, ⟨.word "b", 5⟩, ⟨.stop, 6⟩] ∧
      tokenize ("é\\  " ++ "b\"c") = .error (.lexical "unterminated quoted string" 6) := by
  have read : tokenize "é\\  " = .ok ([⟨.word "é ", 0⟩] ++ [⟨.stop, 5⟩]) :=
    tokenize_of_found (by decide +kernel)
  have slice : Unescapes isDelimiter ['é', '\\', ' '] ['é', ' '] :=
    .plain (by decide) (by decide) (.escaped .nil)
  have word : SpellsBefore [' '] ['é', '\\', ' '] (.word "é ") :=
    .word (by simp) slice (ends_word_at (by decide) []) fun kind reserved => reserved.1 (by simp)
  let piece : Piece := ⟨[], ['é', '\\', ' '], .word "é "⟩
  have noGap : ∀ c ∈ piece.gap, isBlank c := by simp [piece]
  have lastGap : ∀ c ∈ [' '], isBlank c := by simp [isBlank]
  have layout : Layout ['é', '\\', ' ', ' '] [piece] [' '] := layout_cons noGap word (layout_end lastGap)
  have spelled : "é\\  ".toList = ['é', '\\', ' ', ' '] := rfl
  have parted (second : String) : Parted "é\\  ".toList second.toList [⟨.word "é ", 0⟩] :=
    .apart (spelled ▸ layout) (by simp)
  obtain ⟨letter, -⟩ := tokens_behind_boundary read (parted "b")
  obtain ⟨-, quote⟩ := tokens_behind_boundary read (parted "b\"c")
  have single : tokenize "b" = .ok [⟨.word "b", 0⟩, ⟨.stop, 1⟩] := tokenize_of_found (by decide +kernel)
  have unclosed : tokenize "b\"c" = .error (.lexical "unterminated quoted string" 1) := by
    exact (tokenize_error_iff _ (.unterminatedPhrase 1)).mpr (by rfl)
  obtain ⟨reason, position, same, moved⟩ := quote _ unclosed
  cases same
  exact ⟨read, letter _ single, moved⟩

end Boundaries

end Token
end BoolQuery
