import BoolQuery.Toml.Reader
import BoolQuery.Toml.Writer
import Mathlib.Tactic.IntervalCases

/-! A text that is written as a TOML string is read again, whichever way of quoting is chosen. Inside
of the quotes the reader has read a part of the text and stands behind a run of quotes that may yet
turn out to be the end; the run stays shorter than the quotes at the end are. -/
namespace BoolQuery.Toml.Reader

section Reading

/-- The string behind a character that belongs to it. -/
def Quote.takes (quote : Quote) (c : Char) : Option Quote :=
  match quote.over? (some c) with
  | none => quote.step c
  | some _ => none

/-- The string behind some characters that belong to it. -/
def Quote.reads (quote : Quote) (text : List Char) : Option Quote := text.foldlM Quote.takes quote

variable {quote next : Quote} {c : Char}

theorem reads_cons (taken : quote.takes c = some next) (rest : List Char) :
    quote.reads (c :: rest) = next.reads rest := by
  rw [Quote.reads, List.foldlM_cons, taken]
  rfl

theorem reads_append {first : List Char} (read : quote.reads first = some next) (second : List Char) :
    quote.reads (first ++ second) = next.reads second := by
  rw [Quote.reads] at read
  rw [Quote.reads, List.foldlM_append, read]
  rfl

@[simp]
theorem pushn_zero (text : String) (c : Char) : text.pushn c 0 = text := rfl

theorem push_append_ofList (text : String) (c : Char) (rest : List Char) :
    text.push c ++ String.ofList rest = text ++ String.ofList (c :: rest) := by
  apply String.toList_inj.mp
  simp

end Reading

section Runs

def markOf (literal : Bool) : Char := if literal then '\'' else '\x22'

/-- So many quotes in a row end a string. -/
def closing (lines : Bool) : Nat := if lines then 3 else 1

theorem closing_pos (lines : Bool) : 0 < closing lines := by cases lines <;> decide

/-- A string inside of its quotes: the text in front of a run of quotes is read. -/
def inside (literal lines : Bool) (text : String) (run : Nat) : Quote :=
  ⟨literal, lines, text, if run = 0 then .body else .quotes run⟩

theorem mark_eq (quote : Quote) : quote.mark = markOf quote.literal := rfl

variable {literal lines : Bool} {text : String} {run : Nat} {c : Char}

theorem takes_mark (room : run = 0 ∨ lines ∧ run < 5) :
    (inside literal lines text run).takes (markOf literal) = some (inside literal lines text (run + 1)) := by
  by_cases none : run = 0
  · subst none
    simp [inside, Quote.takes, Quote.over?, Quote.step, Quote.stepBody, mark_eq, Quote.at]
  obtain ⟨several, few⟩ := room.resolve_left none
  simp [inside, none, Quote.takes, Quote.over?, Quote.step, mark_eq, several, few, Quote.at]

-- Behind a run that is too short for the end, any other character is one of the body.
theorem takes_other (short : run < closing lines) (other : c ≠ markOf literal) :
    (inside literal lines text run).takes c =
      (inside literal lines (text.pushn (markOf literal) run) 0).stepBody c := by
  by_cases none : run = 0
  · subst none
    rfl
  have several : lines := by
    cases lines
    · exact absurd (Nat.lt_one_iff.mp short) none
    · rfl
  subst several
  have open? : (inside literal true text run).over? (some c) = Option.none := by
    simp only [inside, none, if_false, Quote.over?, Bool.not_true, Bool.false_eq_true, Bool.or_eq_true,
      decide_eq_true_eq]
    exact if_pos (Or.inl short)
  rw [Quote.takes, open?]
  simp only [inside, none, if_false, Quote.step]
  exact if_neg other

theorem over_closed (text : String) {run : Nat} (short : run < closing lines) (other : c ≠ markOf literal) :
    (inside literal lines text (run + closing lines)).over? (some c) =
      some (text.pushn (markOf literal) run) := by
  cases lines with
  | false =>
    have none : run = 0 := Nat.lt_one_iff.mp short
    subst none
    rfl
  | true =>
    have long : ¬ run + 3 < 3 := by omega
    simp [inside, Quote.over?, closing, mark_eq, long, other]

end Runs

section Characters

variable {literal lines : Bool} {text : String} {c : Char}

theorem stepBody_plain (printed : needsCode c = false) (other : c ≠ markOf literal)
    (plain : literal ∨ c ≠ '\\') (stays : lines ∨ c ≠ '\n') :
    (inside literal lines text 0).stepBody c = some (inside literal lines (text.push c) 0) := by
  have noReturn : c ≠ '\r' := by
    rintro rfl
    cases printed
  by_cases breaks : c = '\n'
  · subst breaks
    have several : lines := stays.resolve_right (fun same => same rfl)
    simp [Quote.stepBody, mark_eq, inside, other, several, Quote.stepBreak, Quote.add]
  have code : (c.toNat < 0x20 → c = '\t') ∧ c.toNat ≠ 0x7f := by
    simpa [needsCode, breaks, not_imp_not] using printed
  have shown : isText c := by
    have seen : c ≠ '\t' → 0x20 ≤ c.toNat := fun noTab =>
      Nat.le_of_not_lt fun low => noTab (code.1 low)
    simpa [isText, code.2, or_iff_not_imp_left] using seen
  have noEscape : ¬ (c = '\\' ∧ literal = false) := by
    rintro ⟨slash, basic⟩
    simp [slash, basic] at plain
  simp [Quote.stepBody, mark_eq, inside, other, noEscape, breaks, noReturn, shown, Quote.add]

theorem escaped_of_letter {letter : Char} (escaped : escapeLetter? lines c = some letter) :
    escaped? letter = some c := by
  unfold escapeLetter? at escaped
  split at escaped
  case h_3 =>
    split at escaped
    · cases escaped
    · cases escaped
      rfl
  all_goals
    cases escaped
    try rfl

def escaping (lines : Bool) (text : String) : Quote := ⟨false, lines, text, .escape⟩

theorem reads_letter {letter : Char} (escaped : escaped? letter = some c) :
    (escaping lines text).reads [letter] = some (inside false lines (text.push c) 0) := by
  have taken : (escaping lines text).takes letter = some (inside false lines (text.push c) 0) := by
    simp only [Quote.takes, Quote.over?, Quote.step, escaping, Quote.stepEscape, escaped]
    rfl
  rw [reads_cons taken]
  rfl

-- The four digits of the code point of a control character name it again.
theorem reads_code (coded : needsCode c) :
    (escaping lines text).reads (codeEscape c).tail = some (inside false lines (text.push c) 0) := by
  have below (n : Nat) (low : n < 0x20) : (escaping lines text).reads (codeEscape (Char.ofNat n)).tail =
      some (inside false lines (text.push (Char.ofNat n)) 0) := by
    interval_cases n <;> rfl
  by_cases low : c.toNat < 0x20
  · have read := below c.toNat low
    rwa [Char.ofNat_toNat] at read
  · have last : c.toNat = 0x7f := by simpa [needsCode, low] using coded
    rw [← Char.ofNat_toNat c, last]
    rfl

end Characters

section Texts

/-- A piece of a string leads over the characters of a text: what is read and the run of quotes behind
it, taken together, grow by that text. -/
def Adds (literal lines : Bool) (text : String) (run : Nat) (written added : List Char) : Prop :=
  ∃ last run', run' < closing lines ∧
    (inside literal lines text run).reads written = some (inside literal lines last run') ∧
    last.pushn (markOf literal) run' =
      text.pushn (markOf literal) run ++ String.ofList added

variable {literal lines : Bool} {text : String} {run : Nat} {c : Char} {written added : List Char}

theorem adds_nil (short : run < closing lines) : Adds literal lines text run [] [] :=
  ⟨text, run, short, rfl, by simp⟩

theorem adds_mark (short : run + 1 < closing lines)
    (onward : Adds literal lines text (run + 1) written added) :
    Adds literal lines text run (markOf literal :: written) (markOf literal :: added) := by
  obtain ⟨last, run', ends, read, same⟩ := onward
  have room : run = 0 ∨ lines ∧ run < 5 := by
    cases lines
    · exact absurd short (by simp [closing])
    · have few : run + 1 < 3 := short
      exact Or.inr ⟨rfl, by omega⟩
  refine ⟨last, run', ends, ?_, ?_⟩
  · rw [reads_cons (takes_mark room), read]
  · rw [same, ← push_append_ofList]
    rfl

theorem adds_plain (short : run < closing lines) (printed : needsCode c = false)
    (other : c ≠ markOf literal) (plain : literal ∨ c ≠ '\\') (stays : lines ∨ c ≠ '\n')
    (onward : Adds literal lines ((text.pushn (markOf literal) run).push c) 0 written added) :
    Adds literal lines text run (c :: written) (c :: added) := by
  obtain ⟨last, run', ends, read, same⟩ := onward
  refine ⟨last, run', ends, ?_, ?_⟩
  · rw [reads_cons ((takes_other short other).trans (stepBody_plain printed other plain stays)), read]
  · rw [same, ← push_append_ofList]
    rfl

theorem adds_escape (escape : List Char) (short : run < closing lines)
    (escaped : ∀ text, (escaping lines text).reads escape = some (inside false lines (text.push c) 0))
    (onward : Adds false lines ((text.pushn '\x22' run).push c) 0 written added) :
    Adds false lines text run ('\\' :: escape ++ written) (c :: added) := by
  obtain ⟨last, run', ends, read, same⟩ := onward
  have slash : (inside false lines text run).takes '\\' = some (escaping lines (text.pushn '\x22' run)) :=
    takes_other short (by decide)
  refine ⟨last, run', ends, ?_, ?_⟩
  · rw [List.cons_append, reads_cons slash, reads_append (escaped _), read]
  · rw [same, ← push_append_ofList]
    rfl

theorem max_le_longestRun (mark : Char) (current best : Nat) (characters : List Char) :
    max current best ≤ longestRun mark current best characters := by
  induction characters generalizing current best with
  | nil => exact Nat.le_refl _
  | cons c rest ih =>
    rw [longestRun]
    split
    · exact Nat.le_trans (by omega) (ih (current + 1) best)
    · exact Nat.le_trans (Nat.le_max_right 0 _) (ih 0 (max current best))

theorem run_lt_of_longestRun {mark : Char} {best limit : Nat} {characters : List Char}
    (short : longestRun mark run best characters < limit) : run < limit :=
  Nat.lt_of_le_of_lt (Nat.le_trans (Nat.le_max_left run best) (max_le_longestRun mark run best _)) short

/-- Between double quotes a text is read through its escapes. -/
theorem adds_escaped (short : run < closing lines) (characters : List Char) :
    Adds false lines text run (escapeFrom lines (closing lines) run characters) characters := by
  induction characters generalizing text run with
  | nil => exact adds_nil short
  | cons c rest ih =>
    rw [escapeFrom]
    split
    · next quote =>
      subst quote
      split
      · next more => exact adds_mark more (ih more)
      · exact adds_escape ['\x22'] short
          (fun text => reads_letter rfl) (ih (closing_pos lines))
    · next other =>
      split
      · next letter escaped =>
        exact adds_escape [letter] short
          (fun text => reads_letter (escaped_of_letter escaped)) (ih (closing_pos lines))
      · next unescaped =>
        split
        · next coded =>
          exact adds_escape (codeEscape c).tail short (fun text => reads_code coded)
            (ih (closing_pos lines))
        · next printed =>
          refine adds_plain short (by simpa using printed) other (Or.inr ?_) ?_
            (ih (closing_pos lines))
          · rintro rfl
            cases unescaped
          · cases lines
            · right
              rintro rfl
              cases unescaped
            · exact Or.inl rfl

/-- Between single quotes a text is read as it is, when no run of them is long enough for the end. -/
theorem adds_literal (characters : List Char) (best : Nat)
    (short : longestRun '\'' run best characters < closing lines)
    (printed : ∀ c ∈ characters, needsCode c = false) (stays : lines ∨ '\n' ∉ characters) :
    Adds true lines text run characters characters := by
  induction characters generalizing text run best with
  | nil => exact adds_nil (run_lt_of_longestRun short)
  | cons c rest ih =>
    have fits := run_lt_of_longestRun short
    rw [List.forall_mem_cons] at printed
    rw [List.mem_cons, not_or] at stays
    have others : lines ∨ '\n' ∉ rest := stays.imp_right And.right
    rw [longestRun] at short
    split at short
    · next quote =>
      subst quote
      exact adds_mark (run_lt_of_longestRun short) (ih _ short printed.2 others)
    · next other =>
      exact adds_plain fits printed.1 other (Or.inl rfl) (stays.imp_right fun apart => Ne.symm apart.1)
        (ih _ short printed.2 others)

end Texts

section Strings

variable {literal : Bool} {written characters : List Char} {c : Char}

def opened (literal : Bool) : Quote := ⟨literal, false, "", .opened⟩

def openedLines (literal : Bool) : Quote := ⟨literal, true, "", .firstLine⟩

theorem takes_opened (other : c ≠ markOf literal) :
    (opened literal).takes c = (inside literal false "" 0).takes c := by
  have goesOn : (opened literal).step c = (opened literal).stepBody c := if_neg other
  rw [Quote.takes, show (opened literal).over? (some c) = none from rfl, goesOn]
  rfl

theorem takes_openedLines (noBreak : c ≠ '\n') (noReturn : c ≠ '\r') :
    (openedLines literal).takes c = (inside literal true "" 0).takes c := by
  have goesOn : (openedLines literal).step c = (openedLines literal).stepBody c := by
    simp [Quote.step, openedLines, noBreak, noReturn]
  rw [Quote.takes, show (openedLines literal).over? (some c) = none from rfl, goesOn]
  rfl

theorem reads_openedLines (literal : Bool) :
    (opened literal).reads [markOf literal, markOf literal] = some (openedLines literal) := by
  cases literal <;> rfl

/-- Behind its first quote a text is read, and it is over in front of any other character. -/
def Spells (literal : Bool) (behind characters : List Char) : Prop :=
  ∃ last, (opened literal).reads behind = some last ∧
    ∀ c, c ≠ markOf literal → last.over? (some c) = some (String.ofList characters)

theorem spells_line (adds : Adds literal false "" 0 written characters)
    (heads : written.head? ≠ some (markOf literal)) :
    Spells literal (written ++ [markOf literal]) characters := by
  obtain ⟨last, run, short, read, same⟩ := adds
  have none : run = 0 := Nat.lt_one_iff.mp short
  subst none
  have text : last = String.ofList characters := by simpa using same
  subst text
  cases written with
  | nil =>
    have empty : "" = String.ofList characters := by simpa [Quote.reads, inside] using read
    refine ⟨⟨literal, false, "", .twoQuotes⟩, ?_, ?_⟩
    · cases literal <;> rfl
    · intro next apart
      simp [Quote.over?, mark_eq, apart, ← empty]
  | cons c rest =>
    have other : c ≠ markOf literal := by simpa using heads
    have first : (opened literal).reads (c :: rest) = (inside literal false "" 0).reads (c :: rest) := by
      simp only [Quote.reads, List.foldlM_cons, takes_opened other]
    refine ⟨inside literal false (String.ofList characters) 1, ?_, ?_⟩
    · rw [reads_append (first.trans read), reads_cons (takes_mark (Or.inl rfl))]
      rfl
    · intro next apart
      exact over_closed _ short apart

theorem reads_closing {text : String} {run : Nat} (short : run < 3) :
    (inside literal true text run).reads [markOf literal, markOf literal, markOf literal] =
      some (inside literal true text (run + 3)) := by
  have more (count : Nat) (few : count < 3) :
      (inside literal true text (run + count)).takes (markOf literal) =
        some (inside literal true text (run + count + 1)) := takes_mark (Or.inr ⟨rfl, by omega⟩)
  have first := reads_cons (more 0 (by decide)) [markOf literal, markOf literal]
  have second := reads_cons (more 1 (by decide)) [markOf literal]
  exact first.trans (second.trans (reads_cons (more 2 (by decide)) []))

theorem spells_lines (adds : Adds literal true "" 0 written characters)
    (heads : '\n' ∉ characters → written.head? ≠ some '\n') (noReturn : written.head? ≠ some '\r') :
    Spells literal ((inLines (markOf literal) characters written).tail) characters := by
  obtain ⟨last, run, short, read, same⟩ := adds
  let quotes := [markOf literal, markOf literal, markOf literal]
  have ends : (inside literal true "" 0).reads (written ++ quotes) =
      some (inside literal true last (run + 3)) := (reads_append read quotes).trans (reads_closing short)
  refine ⟨inside literal true last (run + 3), ?_, ?_⟩
  · have begins : (openedLines literal).reads
        ((if characters.contains '\n' then ['\n'] else []) ++ (written ++ quotes)) =
        (inside literal true "" 0).reads (written ++ quotes) := by
      split
      · exact reads_cons rfl _
      · next oneLine =>
        have noBreak := heads (by simpa using oneLine)
        cases written with
        | nil => cases literal <;> rfl
        | cons c rest =>
          have others : c ≠ '\n' ∧ c ≠ '\r' := ⟨by simpa using noBreak, by simpa using noReturn⟩
          simp only [List.nil_append, List.cons_append, Quote.reads, List.foldlM_cons,
            takes_openedLines others.1 others.2]
    have front := reads_append (reads_openedLines literal)
      ((if characters.contains '\n' then ['\n'] else []) ++ (written ++ quotes))
    rw [begins, ends] at front
    simpa [inLines] using front
  · intro next apart
    have closes := over_closed last short apart
    rw [same, pushn_zero, String.empty_append] at closes
    exact closes

theorem head_escapeFrom {lines : Bool} {limit run : Nat}
    (head : (escapeFrom lines limit run characters).head? = some c) :
    c = '\\' ∨ characters.head? = some c ∧ needsCode c = false ∧ (c = '\x22' → run + 1 < limit) := by
  cases characters with
  | nil => cases head
  | cons first rest =>
    rw [escapeFrom] at head
    split at head
    · next quote =>
      subst quote
      split at head
      · next more =>
        cases head
        exact Or.inr ⟨rfl, rfl, fun _ => more⟩
      · cases head
        exact Or.inl rfl
    · next other =>
      split at head
      · cases head
        exact Or.inl rfl
      · split at head
        · cases head
          exact Or.inl rfl
        · next printed =>
          cases head
          exact Or.inr ⟨rfl, by simpa using printed, fun same => absurd same other⟩

theorem spells_escaped (characters : List Char) :
    Spells false (escapeFrom false 1 0 characters ++ ['\x22']) characters := by
  refine spells_line (adds_escaped (by decide) characters) fun head => ?_
  rcases head_escapeFrom head with same | ⟨-, -, more⟩
  · cases same
  · exact absurd (more rfl) (by decide)

theorem spells_escapedLines (characters : List Char) :
    Spells false (inLines '\x22' characters (escapeFrom true 3 0 characters)).tail characters := by
  refine spells_lines (adds_escaped (by decide) characters) (fun oneLine head => ?_) fun head => ?_
  · rcases head_escapeFrom head with same | ⟨starts, -, -⟩
    · cases same
    · exact oneLine (List.mem_of_mem_head? starts)
  · rcases head_escapeFrom head with same | ⟨-, printed, -⟩
    · cases same
    · cases printed

theorem fits_literal_iff : Style.literal.fits characters ↔
    (∀ c ∈ characters, needsCode c = false) ∧ ∀ c ∈ characters, c ≠ '\'' ∧ c ≠ '\n' := by
  simp [Style.fits]

theorem fits_literalLines_iff : Style.literalLines.fits characters ↔
    (∀ c ∈ characters, needsCode c = false) ∧ longestRun '\'' 0 0 characters ≤ 2 := by
  simp [Style.fits]

theorem longestRun_eq_zero {mark : Char} (absent : mark ∉ characters) :
    longestRun mark 0 0 characters = 0 := by
  induction characters with
  | nil => rfl
  | cons c rest ih =>
    rw [List.mem_cons, not_or] at absent
    rw [longestRun, if_neg (Ne.symm absent.1)]
    exact ih absent.2

theorem spells_literal (fits : Style.literal.fits characters) :
    Spells true (characters ++ ['\'']) characters := by
  obtain ⟨printed, apart⟩ := fits_literal_iff.mp fits
  have noMark : '\'' ∉ characters := fun inside => (apart _ inside).1 rfl
  have oneLine : '\n' ∉ characters := fun inside => (apart _ inside).2 rfl
  refine spells_line (adds_literal characters 0 ?_ printed (Or.inr oneLine)) fun head => ?_
  · rw [longestRun_eq_zero noMark]
    decide
  · exact noMark (List.mem_of_mem_head? head)

theorem spells_literalLines (fits : Style.literalLines.fits characters) :
    Spells true (inLines '\'' characters characters).tail characters := by
  obtain ⟨printed, short⟩ := fits_literalLines_iff.mp fits
  refine spells_lines (adds_literal characters 0 (Nat.lt_succ_of_le short) printed
    (Or.inl rfl)) (fun oneLine head => oneLine (List.mem_of_mem_head? head)) fun head => ?_
  cases printed _ (List.mem_of_mem_head? head)

/-- Every text is read back from the way it is written in. -/
theorem spells_styleOf (characters : List Char) :
    ∃ literal behind, (styleOf characters).write characters = markOf literal :: behind ∧
      Spells literal behind characters := by
  have basic : Style.basic.write characters = markOf false ::
      (escapeFrom false 1 0 characters ++ ['\x22']) := rfl
  have basicLines : Style.basicLines.write characters = markOf false ::
      (inLines '\x22' characters (escapeFrom true 3 0 characters)).tail := rfl
  have escaped := spells_escaped characters
  have escapedLines := spells_escapedLines characters
  rw [styleOf]
  split
  · exact ⟨_, _, basic, escaped⟩
  split
  · next fits => exact ⟨true, _, rfl, spells_literal fits⟩
  split
  · exact ⟨_, _, basicLines, escapedLines⟩
  split
  · next fits => exact ⟨true, _, rfl, spells_literalLines fits⟩
  split
  · exact ⟨_, _, basicLines, escapedLines⟩
  · exact ⟨_, _, basic, escaped⟩

end Strings

end BoolQuery.Toml.Reader
