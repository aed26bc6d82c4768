import BoolQuery.Token.Lexer
import BoolQuery.Token.Segmentation

/-! The lexer finds the segmentation of a text. What it does over a gap and over a slice is said
first, then what a text must look like when the lexer comes to its end from a given mode. -/
namespace BoolQuery.Lexer
open Token Text

section Characters

theorem byteSize_append (first second : List Char) :
    byteSize (first ++ second) = byteSize first + byteSize second := by
  induction first with
  | nil => simp [byteSize]
  | cons c rest ih => simp [byteSize, ih, Nat.add_assoc]

theorem byteSize_pos {slice : List Char} (some : slice ≠ []) : 0 < byteSize slice := by
  cases slice with
  | nil => exact absurd rfl some
  | cons c rest =>
    have := c.utf8Size_pos
    simp only [byteSize]
    omega

theorem push_append (text : String) (c : Char) (more : List Char) :
    text.push c ++ String.ofList more = text ++ String.ofList (c :: more) := by
  apply String.toList_inj.mp
  simp

theorem isDelimiter_of_punctuation {c : Char} {kind : Kind} (mark : punctuation? c = some kind) :
    isDelimiter c := by
  simp [isDelimiter, mark]

theorem backslash_goes_on : isDelimiter '\\' = false := by decide

theorem punctuation_of_isBlank {c : Char} (blank : isBlank c) : punctuation? c = none := by
  rcases (by simpa [isBlank] using blank : c = ' ' ∨ c = '\t') with rfl | rfl <;> rfl

theorem isBlank_of_punctuation {c : Char} {kind : Kind} (mark : punctuation? c = some kind) :
    isBlank c = false := by
  cases blank : isBlank c with
  | false => rfl
  | true => simp [punctuation_of_isBlank blank] at mark

theorem not_special {c : Char} (goesOn : isDelimiter c = false) :
    isBlank c = false ∧ punctuation? c = none ∧ c ≠ '\x22' := by
  simpa [isDelimiter, and_assoc] using goesOn

end Characters

section Steps

variable {found : List Token} {offset start : Nat} {text : String} {escaped : Bool} {c : Char}

theorem run_append (state : State) (first second : List Char) :
    state.run (first ++ second) = (state.run first).run second := by
  simp [State.run, List.foldl_append]

theorem run_cons (state : State) (c : Char) (rest : List Char) :
    state.run (c :: rest) = (state.step c).run rest := rfl

theorem step_blank (blank : isBlank c) :
    State.step ⟨found, offset, .between⟩ c = ⟨found, offset + c.utf8Size, .between⟩ := by
  simp [State.step, State.stepBetween, blank]

theorem step_quote :
    State.step ⟨found, offset, .between⟩ '\x22' =
      ⟨found, offset + Char.utf8Size '\x22', .phrase offset ""⟩ := rfl

theorem step_backslash :
    State.step ⟨found, offset, .between⟩ '\\' =
      ⟨found, offset + Char.utf8Size '\\', .wordEscape offset offset ""⟩ := rfl

theorem step_punctuation {kind : Kind} (mark : punctuation? c = some kind) :
    State.step ⟨found, offset, .between⟩ c =
      ⟨⟨kind, offset⟩ :: found, offset + c.utf8Size, .between⟩ := by
  simp [State.step, State.stepBetween, isBlank_of_punctuation mark, mark]

theorem step_letter (goesOn : isDelimiter c = false) (isPlain : c ≠ '\\') :
    State.step ⟨found, offset, .between⟩ c =
      ⟨found, offset + c.utf8Size, .word offset ("".push c) false⟩ := by
  obtain ⟨gap, mark, quote⟩ := not_special goesOn
  simp [State.step, State.stepBetween, gap, mark, quote, isPlain]

theorem word_step_letter (goesOn : isDelimiter c = false) (isPlain : c ≠ '\\') :
    State.step ⟨found, offset, .word start text escaped⟩ c =
      ⟨found, offset + c.utf8Size, .word start (text.push c) escaped⟩ := by
  simp [State.step, goesOn, isPlain]

-- A delimiter is read as if the word in front of it were a token already.
theorem word_step_delimiter (ends : isDelimiter c) :
    State.step ⟨found, offset, .word start text escaped⟩ c =
      State.step ⟨⟨wordKind text escaped, start⟩ :: found, offset, .between⟩ c := by
  have other : c ≠ '\\' := by
    rintro rfl
    exact absurd ends (by decide)
  simp [State.step, other, ends]

theorem word_step_backslash :
    State.step ⟨found, offset, .word start text escaped⟩ '\\' =
      ⟨found, offset + Char.utf8Size '\\', .wordEscape offset start text⟩ := rfl

theorem word_step_escaped (mark : Nat) :
    State.step ⟨found, offset, .wordEscape mark start text⟩ c =
      ⟨found, offset + c.utf8Size, .word start (text.push c) true⟩ := rfl

theorem phrase_step_quote :
    State.step ⟨found, offset, .phrase start text⟩ '\x22' =
      ⟨⟨.phrase text, start⟩ :: found, offset + Char.utf8Size '\x22', .between⟩ := rfl

theorem phrase_step_backslash :
    State.step ⟨found, offset, .phrase start text⟩ '\\' =
      ⟨found, offset + Char.utf8Size '\\', .phraseEscape offset start text⟩ := rfl

theorem phrase_step_escaped (mark : Nat) :
    State.step ⟨found, offset, .phraseEscape mark start text⟩ c =
      ⟨found, offset + c.utf8Size, .phrase start (text.push c)⟩ := rfl

theorem phrase_step_letter (goesOn : c ≠ '\x22') (isPlain : c ≠ '\\') :
    State.step ⟨found, offset, .phrase start text⟩ c =
      ⟨found, offset + c.utf8Size, .phrase start (text.push c)⟩ := by
  simp [State.step, goesOn, isPlain]

end Steps

section Reading

variable {found : List Token} {offset start : Nat}

theorem run_gap {gap : List Char} (blank : ∀ c ∈ gap, isBlank c) :
    State.run ⟨found, offset, .between⟩ gap = ⟨found, offset + byteSize gap, .between⟩ := by
  induction gap generalizing offset with
  | nil => rfl
  | cons c rest ih =>
    have first : isBlank c := blank c List.mem_cons_self
    rw [run_cons, step_blank first, ih fun d member => blank d (List.mem_cons_of_mem c member)]
    simp [byteSize, Nat.add_assoc]

theorem run_phrase {body more : List Char} (unescapes : Unescapes (· = '\x22') body more)
    (text : String) :
    State.run ⟨found, offset, .phrase start text⟩ (body ++ ['\x22']) =
      ⟨⟨.phrase (text ++ String.ofList more), start⟩ :: found,
        offset + byteSize (body ++ ['\x22']), .between⟩ := by
  induction unescapes generalizing offset text with
  | nil => simp [State.run, State.step, byteSize]
  | plain isPlain goesOn _ ih =>
    rw [List.cons_append, run_cons, phrase_step_letter (by simpa using goesOn) isPlain, ih,
      push_append]
    simp [byteSize, Nat.add_assoc]
  | escaped _ ih =>
    rw [List.cons_append, List.cons_append, run_cons, phrase_step_backslash, run_cons,
      phrase_step_escaped, ih, push_append]
    simp [byteSize, Nat.add_assoc]

theorem run_word {slice more : List Char} (unescapes : Unescapes isDelimiter slice more)
    (text : String) (escaped : Bool) :
    State.run ⟨found, offset, .word start text escaped⟩ slice =
      ⟨found, offset + byteSize slice,
        .word start (text ++ String.ofList more) (escaped || slice.contains '\\')⟩ := by
  induction unescapes generalizing offset text escaped with
  | nil => simp [State.run, byteSize]
  | plain isPlain goesOn _ ih =>
    rw [run_cons, word_step_letter goesOn isPlain, ih, push_append]
    simp [byteSize, Nat.add_assoc, Ne.symm isPlain]
  | escaped _ ih =>
    rw [run_cons, word_step_backslash, run_cons, word_step_escaped, ih, push_append]
    simp [byteSize, Nat.add_assoc]

theorem run_bare {slice more : List Char} (some : slice ≠ [])
    (unescapes : Unescapes isDelimiter slice more) :
    State.run ⟨found, offset, .between⟩ slice =
      ⟨found, offset + byteSize slice,
        .word offset (String.ofList more) (slice.contains '\\')⟩ := by
  cases unescapes with
  | nil => exact absurd rfl some
  | plain isPlain goesOn others =>
    rw [run_cons, step_letter goesOn isPlain, run_word others, push_append]
    simp [byteSize, Nat.add_assoc, Ne.symm isPlain]
  | escaped others =>
    rw [run_cons, step_backslash, run_cons, word_step_escaped, run_word others, push_append]
    simp [byteSize, Nat.add_assoc]

end Reading

section Words

/-- A word may end here: at the end of the text or in front of a delimiter. -/
def EndsWord (rest : List Char) : Prop := ∀ c ∈ rest.head?, isDelimiter c

theorem ends_word_at {c : Char} (ends : isDelimiter c) (rest : List Char) : EndsWord (c :: rest) := by
  simpa [EndsWord] using ends

theorem bare_first {c : Char} {slice more : List Char}
    (unescapes : Unescapes isDelimiter (c :: slice) more) : isDelimiter c = false := by
  cases unescapes with
  | plain _ goesOn _ => exact goesOn
  | escaped _ => exact backslash_goes_on

theorem endsBefore_bare {slice more rest : List Char} (some : slice ≠ [])
    (unescapes : Unescapes isDelimiter slice more) : endsBefore slice rest ↔ EndsWord rest := by
  cases slice with
  | nil => exact absurd rfl some
  | cons c slice =>
    have first := bare_first unescapes
    cases rest with
    | nil => simp [endsBefore, EndsWord]
    | cons d rest => simp [endsBefore, EndsWord, first]

theorem endsBefore_of_endsWord (slice : List Char) {rest : List Char} (ends : EndsWord rest) :
    endsBefore slice rest := by
  cases slice with
  | nil => trivial
  | cons c slice =>
    cases rest with
    | nil => trivial
    | cons d rest => exact Or.inr (ends d rfl)

-- A slice that begins with a delimiter is no word and ends anywhere.
theorem endsBefore_delimiter {c : Char} (ends : isDelimiter c) (slice rest : List Char) :
    endsBefore (c :: slice) rest := by
  cases rest with
  | nil => trivial
  | cons d rest => exact Or.inl ends

-- Where a word may end, it makes no difference to end it at once.
theorem finish_word {found : List Token} {offset start : Nat} {text : String} {escaped : Bool}
    {rest : List Char} (ends : EndsWord rest) :
    (State.run ⟨found, offset, .word start text escaped⟩ rest).finish =
      (State.run ⟨⟨wordKind text escaped, start⟩ :: found, offset, .between⟩ rest).finish := by
  cases rest with
  | nil => rfl
  | cons c rest => rw [run_cons, run_cons, word_step_delimiter (ends c rfl)]

end Words

section Completeness

/-- The lexer finds every segmentation. -/
theorem finish_of_segmented {offset : Nat} {text : List Char} {tokens : List Token}
    (segmented : Segmented offset text tokens) (found : List Token) :
    (State.run ⟨found, offset, .between⟩ text).finish = .ok (found.reverse ++ tokens) := by
  -- Induction over the slices, for any tokens found in front of them.
  induction segmented generalizing found with
  | stop blank => simp [run_gap blank, State.finish]
  | token blank spells maximal _ ih =>
    rw [run_append, run_append, run_gap blank]
    cases spells with
    | punctuation mark =>
      simp only [run_cons, step_punctuation mark]
      simpa [State.run, byteSize] using ih (⟨_, _⟩ :: found)
    | phrase unescapes =>
      rw [run_cons, step_quote, run_phrase unescapes, Nat.add_assoc]
      simpa [byteSize] using ih (⟨_, _⟩ :: found)
    | word some unescapes =>
      rw [run_bare some unescapes, finish_word ((endsBefore_bare some unescapes).mp maximal), ih]
      simp [wordKind]

end Completeness

section Soundness

/-- What a text must be for the lexer to find the tokens when it goes on with a word. -/
def ContinuesWord (start : Nat) (word : String) (escaped : Bool) (offset : Nat) (text : List Char)
    (tokens : List Token) : Prop :=
  ∃ slice more rest others, text = slice ++ rest ∧ Unescapes isDelimiter slice more ∧
    EndsWord rest ∧ Segmented (offset + byteSize slice) rest others ∧
    tokens = ⟨wordKind (word ++ String.ofList more) (escaped || slice.contains '\\'), start⟩ :: others

/-- What a text must be for the lexer to find the tokens when it goes on with a phrase. -/
def ContinuesPhrase (start : Nat) (phrase : String) (offset : Nat) (text : List Char)
    (tokens : List Token) : Prop :=
  ∃ body more rest others, text = body ++ '\x22' :: rest ∧ Unescapes (· = '\x22') body more ∧
    Segmented (offset + byteSize (body ++ ['\x22'])) rest others ∧
    tokens = ⟨.phrase (phrase ++ String.ofList more), start⟩ :: others

/-- What a text must be for the lexer to find the tokens in it from a mode. -/
def Continues (offset : Nat) (text : List Char) (tokens : List Token) : Mode → Prop
  | .between => Segmented offset text tokens
  | .word start word escaped => ContinuesWord start word escaped offset text tokens
  | .phrase start phrase => ContinuesPhrase start phrase offset text tokens
  | .wordEscape _ start word => ∃ c rest, text = c :: rest ∧
      ContinuesWord start (word.push c) true (offset + c.utf8Size) rest tokens
  | .phraseEscape _ start phrase => ∃ c rest, text = c :: rest ∧
      ContinuesPhrase start (phrase.push c) (offset + c.utf8Size) rest tokens

variable {offset start : Nat} {c : Char} {rest : List Char} {tokens : List Token}

theorem segmented_blank (blank : isBlank c)
    (segmented : Segmented (offset + c.utf8Size) rest tokens) :
    Segmented offset (c :: rest) tokens := by
  have longer {gap : List Char} (others : ∀ d ∈ gap, isBlank d) : ∀ d ∈ c :: gap, isBlank d := by
    simpa [blank] using others
  have size (gap : List Char) : offset + c.utf8Size + byteSize gap = offset + byteSize (c :: gap) := by
    simp [byteSize, Nat.add_assoc]
  cases segmented with
  | stop others =>
    rw [size]
    exact .stop (longer others)
  | token others spells maximal behind =>
    rw [size] at behind ⊢
    exact .token (longer others) spells maximal behind

theorem segmented_end (offset : Nat) : Segmented offset [] [⟨.stop, offset⟩] := by
  have blank : ∀ c ∈ ([] : List Char), isBlank c := by simp
  exact .stop blank

theorem segmented_slice {slice : List Char} {kind : Kind} (spells : Spells slice kind)
    (maximal : endsBefore slice rest) (others : Segmented (offset + byteSize slice) rest tokens) :
    Segmented offset (slice ++ rest) (⟨kind, offset⟩ :: tokens) := by
  have blank : ∀ c ∈ ([] : List Char), isBlank c := by simp
  exact .token blank spells maximal (by simpa [byteSize] using others)

theorem continuesWord_end {word : String} {escaped : Bool} {text : List Char} (ends : EndsWord text)
    (segmented : Segmented offset text tokens) :
    ContinuesWord start word escaped offset text (⟨wordKind word escaped, start⟩ :: tokens) :=
  ⟨[], [], text, tokens, rfl, .nil, ends, segmented, by simp⟩

theorem continuesWord_letter {word : String} {escaped : Bool} (goesOn : isDelimiter c = false)
    (isPlain : c ≠ '\\')
    (continues : ContinuesWord start (word.push c) escaped (offset + c.utf8Size) rest tokens) :
    ContinuesWord start word escaped offset (c :: rest) tokens := by
  obtain ⟨slice, more, behind, others, rfl, unescapes, ends, segmented, rfl⟩ := continues
  refine ⟨c :: slice, c :: more, behind, others, rfl, .plain isPlain goesOn unescapes, ends, ?_, ?_⟩
  · simpa [byteSize, Nat.add_assoc] using segmented
  · simp [push_append, Ne.symm isPlain]

theorem continuesWord_escaped {word : String} {escaped : Bool}
    (continues : ContinuesWord start (word.push c) true
      (offset + Char.utf8Size '\\' + c.utf8Size) rest tokens) :
    ContinuesWord start word escaped offset ('\\' :: c :: rest) tokens := by
  obtain ⟨slice, more, behind, others, rfl, unescapes, ends, segmented, rfl⟩ := continues
  refine ⟨'\\' :: c :: slice, c :: more, behind, others, rfl, .escaped unescapes, ends, ?_, ?_⟩
  · simpa [byteSize, Nat.add_assoc] using segmented
  · simp [push_append]

theorem segmented_word (goesOn : isDelimiter c = false)
    (continues : ContinuesWord offset "" false offset (c :: rest) tokens) :
    Segmented offset (c :: rest) tokens := by
  obtain ⟨slice, more, behind, others, cut, unescapes, ends, segmented, rfl⟩ := continues
  have some : slice ≠ [] := by
    rintro rfl
    rw [List.nil_append] at cut
    simp [EndsWord, ← cut, goesOn] at ends
  rw [cut]
  simpa using segmented_slice (.word some unescapes) ((endsBefore_bare some unescapes).mpr ends)
    segmented

theorem continuesPhrase_quote {phrase : String}
    (segmented : Segmented (offset + Char.utf8Size '\x22') rest tokens) :
    ContinuesPhrase start phrase offset ('\x22' :: rest) (⟨.phrase phrase, start⟩ :: tokens) :=
  ⟨[], [], rest, tokens, rfl, .nil, by simpa [byteSize] using segmented, by simp⟩

theorem continuesPhrase_letter {phrase : String} (goesOn : c ≠ '\x22') (isPlain : c ≠ '\\')
    (continues : ContinuesPhrase start (phrase.push c) (offset + c.utf8Size) rest tokens) :
    ContinuesPhrase start phrase offset (c :: rest) tokens := by
  obtain ⟨body, more, behind, others, rfl, unescapes, segmented, rfl⟩ := continues
  refine ⟨c :: body, c :: more, behind, others, rfl, .plain isPlain (by simpa) unescapes, ?_, ?_⟩
  · simpa [byteSize, Nat.add_assoc] using segmented
  · simp [push_append]

theorem continuesPhrase_escaped {phrase : String}
    (continues : ContinuesPhrase start (phrase.push c)
      (offset + Char.utf8Size '\\' + c.utf8Size) rest tokens) :
    ContinuesPhrase start phrase offset ('\\' :: c :: rest) tokens := by
  obtain ⟨body, more, behind, others, rfl, unescapes, segmented, rfl⟩ := continues
  refine ⟨'\\' :: c :: body, c :: more, behind, others, rfl, .escaped unescapes, ?_, ?_⟩
  · simpa [byteSize, Nat.add_assoc] using segmented
  · simp [push_append]

theorem segmented_phrase
    (continues : ContinuesPhrase offset "" (offset + Char.utf8Size '\x22') rest tokens) :
    Segmented offset ('\x22' :: rest) tokens := by
  obtain ⟨body, more, behind, others, rfl, unescapes, segmented, rfl⟩ := continues
  have maximal : endsBefore ('\x22' :: (body ++ ['\x22'])) behind :=
    endsBefore_delimiter (by decide) _ behind
  simpa using segmented_slice (.phrase unescapes) maximal
    (by simpa [byteSize, Nat.add_assoc] using segmented)

theorem continues_of_end {state : State} (finished : state.finish = .ok tokens) :
    ∃ others, tokens = state.found.reverse ++ others ∧
      Continues state.offset [] others state.mode := by
  obtain ⟨found, offset, mode⟩ := state
  have stop := segmented_end offset
  cases mode with
  | between =>
    cases finished
    exact ⟨[⟨.stop, offset⟩], by simp, stop⟩
  | word start word escaped =>
    cases finished
    exact ⟨[⟨wordKind word escaped, start⟩, ⟨.stop, offset⟩], by simp,
      continuesWord_end (by simp [EndsWord]) stop⟩
  | phrase start phrase => cases finished
  | wordEscape mark start word => cases finished
  | phraseEscape mark start phrase => cases finished

theorem continues_step_between {found : List Token}
    (continues : Continues (State.step ⟨found, offset, .between⟩ c).offset rest tokens
      (State.step ⟨found, offset, .between⟩ c).mode) :
    ∃ others, (State.step ⟨found, offset, .between⟩ c).found.reverse ++ tokens =
        found.reverse ++ others ∧ Segmented offset (c :: rest) others := by
  by_cases blank : isBlank c
  · rw [step_blank blank] at continues ⊢
    exact ⟨tokens, rfl, segmented_blank blank continues⟩
  cases mark : punctuation? c with
  | some kind =>
    rw [step_punctuation mark] at continues ⊢
    have maximal := endsBefore_delimiter (isDelimiter_of_punctuation mark) [] rest
    exact ⟨⟨kind, offset⟩ :: tokens, by simp, segmented_slice (.punctuation mark) maximal
      (by simpa [byteSize, Continues] using continues)⟩
  | none =>
    by_cases quote : c = '\x22'
    · subst quote
      rw [step_quote] at continues ⊢
      exact ⟨tokens, rfl, segmented_phrase continues⟩
    -- Neither gap nor mark nor quote: the character begins a word.
    have goesOn : isDelimiter c = false := by simp [isDelimiter, blank, mark, quote]
    by_cases backslash : c = '\\'
    · subst backslash
      rw [step_backslash] at continues ⊢
      obtain ⟨d, behind, rfl, continues⟩ := continues
      exact ⟨tokens, rfl, segmented_word goesOn (continuesWord_escaped continues)⟩
    · rw [step_letter goesOn backslash] at continues ⊢
      exact ⟨tokens, rfl, segmented_word goesOn (continuesWord_letter goesOn backslash continues)⟩

-- If the lexer reads a text as it should behind one character, it does so in front of it.
theorem continues_step (state : State)
    (continues : Continues (state.step c).offset rest tokens (state.step c).mode) :
    ∃ others, (state.step c).found.reverse ++ tokens = state.found.reverse ++ others ∧
      Continues state.offset (c :: rest) others state.mode := by
  obtain ⟨found, offset, mode⟩ := state
  cases mode with
  | between => exact continues_step_between continues
  | word start word escaped =>
    by_cases backslash : c = '\\'
    · subst backslash
      rw [word_step_backslash] at continues ⊢
      obtain ⟨d, behind, rfl, continues⟩ := continues
      exact ⟨tokens, rfl, continuesWord_escaped continues⟩
    by_cases ends : isDelimiter c
    · rw [word_step_delimiter ends] at continues ⊢
      obtain ⟨others, same, segmented⟩ := continues_step_between continues
      exact ⟨⟨wordKind word escaped, start⟩ :: others, by simp [same],
        continuesWord_end (ends_word_at ends rest) segmented⟩
    · rw [word_step_letter (by simpa using ends) backslash] at continues ⊢
      exact ⟨tokens, rfl, continuesWord_letter (by simpa using ends) backslash continues⟩
  | phrase start phrase =>
    by_cases quote : c = '\x22'
    · subst quote
      rw [phrase_step_quote] at continues ⊢
      exact ⟨⟨.phrase phrase, start⟩ :: tokens, by simp, continuesPhrase_quote continues⟩
    by_cases backslash : c = '\\'
    · subst backslash
      rw [phrase_step_backslash] at continues ⊢
      obtain ⟨d, behind, rfl, continues⟩ := continues
      exact ⟨tokens, rfl, continuesPhrase_escaped continues⟩
    · rw [phrase_step_letter quote backslash] at continues ⊢
      exact ⟨tokens, rfl, continuesPhrase_letter quote backslash continues⟩
  | wordEscape mark start word => exact ⟨tokens, rfl, c, rest, rfl, continues⟩
  | phraseEscape mark start phrase => exact ⟨tokens, rfl, c, rest, rfl, continues⟩

/-- What the lexer finds is a segmentation of what was still to be read. -/
theorem continues_of_finish {text : List Char} {state : State}
    (finished : (state.run text).finish = .ok tokens) :
    ∃ others, tokens = state.found.reverse ++ others ∧
      Continues state.offset text others state.mode := by
  -- Induction over the text: the state behind a character is a state like any other.
  induction text generalizing state tokens with
  | nil => exact continues_of_end finished
  | cons c rest ih =>
    rw [run_cons] at finished
    obtain ⟨later, rfl, continues⟩ := ih finished
    exact continues_step state continues

end Soundness

/-- Tokenizing succeeds with the tokens of a segmentation and with no others. -/
theorem tokenize_eq_ok_of_segmented {query : String} {tokens : List Token}
    (segmented : Segmented 0 query.toList tokens) : Lexer.tokenize query = .ok tokens := by
  simpa [Lexer.tokenize] using finish_of_segmented segmented []

theorem segmented_of_tokenize {query : String} {tokens : List Token}
    (tokenized : Lexer.tokenize query = .ok tokens) : Segmented 0 query.toList tokens := by
  obtain ⟨others, rfl, segmented⟩ := continues_of_finish tokenized
  simpa [Continues] using segmented

end BoolQuery.Lexer

namespace BoolQuery.Token
open Lexer Text

section Slices

theorem spells_ne_nil {slice : List Char} {kind : Kind} (spells : Spells slice kind) :
    slice ≠ [] := by
  cases spells with
  | punctuation mark => simp
  | phrase unescapes => simp
  | word some unescapes => exact some

theorem wordKind_cases (text : String) (escaped : Bool) :
    wordKind text escaped ∈ [.word text, .star, .and, .or, .not, .to] := by
  unfold wordKind reserved?
  cases escaped with
  | true => simp
  | false =>
    simp only [Bool.false_eq_true, ↓reduceIte]
    split
    · simp
    split
    · simp
    split
    · simp
    split
    · simp
    split <;> simp

theorem spells_ne_stop {slice : List Char} {kind : Kind} (spells : Spells slice kind) :
    kind ≠ .stop := by
  cases spells with
  | punctuation mark =>
    rintro rfl
    unfold punctuation? at mark
    split at mark <;> simp at mark
  | phrase unescapes => simp
  | word some unescapes =>
    rename_i text
    intro stops
    have listed := wordKind_cases (String.ofList text) (slice.contains '\\')
    rw [stops] at listed
    simp at listed

theorem unescapes_ne_nil {ends : Char → Bool} {slice text : List Char}
    (unescapes : Unescapes ends slice text) (some : slice ≠ []) : text ≠ [] := by
  cases unescapes with
  | nil => exact absurd rfl some
  | plain => simp
  | escaped => simp

theorem spells_word {slice : List Char} {text : String} (spells : Spells slice (.word text)) :
    text ≠ "" := by
  generalize same : Kind.word text = kind at spells
  cases spells with
  | punctuation mark =>
    subst same
    unfold punctuation? at mark
    split at mark <;> simp at mark
  | phrase unescapes => cases same
  | word some unescapes =>
    rename_i word
    have listed := wordKind_cases (String.ofList word) (slice.contains '\\')
    rw [← same] at listed
    obtain rfl : text = String.ofList word := by simpa using listed
    intro empty
    exact unescapes_ne_nil unescapes some (by simpa using congrArg String.toList empty)

end Slices

section Tokens

variable {offset : Nat} {text : List Char} {tokens : List Token}

/-- The stop is the last token and the only one of its kind. -/
theorem segmented_closed (segmented : Segmented offset text tokens) :
    ∃ body stop, tokens = body ++ [stop] ∧ stop.kind = .stop ∧ ∀ token ∈ body, token.kind ≠ .stop := by
  induction segmented with
  | stop blank => exact ⟨[], _, rfl, rfl, by simp⟩
  | token blank spells maximal _ ih =>
    obtain ⟨body, stop, rfl, ends, inside⟩ := ih
    refine ⟨_ :: body, stop, rfl, ends, ?_⟩
    intro token member
    rcases List.mem_cons.mp member with rfl | later
    · exact spells_ne_stop spells
    · exact inside token later

theorem segmented_offset_le (segmented : Segmented offset text tokens) :
    ∀ token ∈ tokens, offset ≤ token.offset := by
  induction segmented with
  | stop blank => simp
  | token blank spells maximal _ ih =>
    intro token member
    rcases List.mem_cons.mp member with rfl | later
    · exact Nat.le_add_right _ _
    · have := ih token later
      omega

theorem segmented_increasing (segmented : Segmented offset text tokens) :
    tokens.Pairwise (fun first second => first.offset < second.offset) := by
  induction segmented with
  | stop blank => simp
  | token blank spells maximal behind ih =>
    refine List.pairwise_cons.mpr ⟨fun token member => ?_, ih⟩
    have start := segmented_offset_le behind token member
    have size := byteSize_pos (spells_ne_nil spells)
    simp only
    omega

theorem segmented_word_ne_empty (segmented : Segmented offset text tokens) {word : String}
    (member : Kind.word word ∈ tokens.map Token.kind) : word ≠ "" := by
  induction segmented with
  | stop blank => simp at member
  | token blank spells maximal _ ih =>
    rcases List.mem_cons.mp member with first | later
    · simp only at first
      subst first
      exact spells_word spells
    · exact ih later

end Tokens

end BoolQuery.Token
