import BoolQuery.Palette
import BoolQuery.Proofs.Text.Lines

/-! A text without its control sequences. Every text is cut into whole sequences, characters outside of them
and perhaps a sequence that does not end, and the characters outside are what remains. What remains is not
read again: where sequences are taken out from between an escape and a bracket, these two come to stand side
by side. -/
namespace BoolQuery.Palette
open Text

/-- A whole control sequence: an escape, a bracket, and what follows up to the first ending character. -/
structure Sequence where
  body : List Char
  last : Char
  inside : ∀ c ∈ body, endsSequence c = false
  ends : endsSequence last = true

def Sequence.text (sequence : Sequence) : List Char :=
  '\x1b' :: '[' :: (sequence.body ++ [sequence.last])

/-- A text that ends outside of sequences, and what remains of it. -/
inductive Remains : List Char → List Char → Prop
  | done : Remains [] []
  /-- A character outside of sequences. An escape is one unless a bracket follows. -/
  | kept {c : Char} {rest out : List Char} (plain : c = '\x1b' → rest.head? ≠ some '[')
    (others : Remains rest out) : Remains (c :: rest) (c :: out)
  | dropped {rest out : List Char} (sequence : Sequence) (others : Remains rest out) :
    Remains (sequence.text ++ rest) out

/-- What may stand behind all that is whole: nothing, or a sequence that does not end. -/
def Unended (text : List Char) : Prop :=
  text = [] ∨ ∃ body, text = '\x1b' :: '[' :: body ∧ ∀ c ∈ body, endsSequence c = false

section Scan

variable {text rest out : List Char} (written : String)

-- Only a bracket makes an escape the start of a sequence.
theorem stripFrom_escape (plain : rest.head? ≠ some '[') :
    stripFrom written .escape rest = stripFrom (written.push '\x1b') .text rest := by
  cases rest with
  | nil => rfl
  | cons c more =>
    have other : c ≠ '[' := fun bracket => plain (by rw [bracket, List.head?_cons])
    simp only [stripFrom, if_neg other]

theorem stripFrom_kept {c : Char} (plain : c = '\x1b' → rest.head? ≠ some '[') :
    stripFrom written .text (c :: rest) = stripFrom (written.push c) .text rest := by
  rw [stripFrom]
  split
  · next escape =>
    rw [escape]
    exact stripFrom_escape written (plain escape)
  · rfl

theorem stripFrom_inside {body : List Char} (inside : ∀ c ∈ body, endsSequence c = false)
    (rest : List Char) : stripFrom written .sequence (body ++ rest) = stripFrom written .sequence rest := by
  induction body with
  | nil => rfl
  | cons c more ih =>
    have goesOn := inside c List.mem_cons_self
    have others : ∀ d ∈ more, endsSequence d = false := fun d member =>
      inside d (List.mem_cons_of_mem c member)
    rw [List.cons_append, stripFrom, goesOn, if_neg Bool.false_ne_true, ih others]

theorem stripFrom_opened (rest : List Char) :
    stripFrom written .text ('\x1b' :: '[' :: rest) = stripFrom written .sequence rest := rfl

theorem stripFrom_sequence (sequence : Sequence) (rest : List Char) :
    stripFrom written .text (sequence.text ++ rest) = stripFrom written .text rest := by
  have opened : sequence.text ++ rest = '\x1b' :: '[' :: (sequence.body ++ sequence.last :: rest) := by
    simp [Sequence.text]
  rw [opened, stripFrom_opened, stripFrom_inside written sequence.inside, stripFrom, sequence.ends,
    if_pos rfl]

theorem stripFrom_unended (unended : Unended text) : stripFrom written .text text = written := by
  rcases unended with rfl | ⟨body, rfl, inside⟩
  · rfl
  · have all := stripFrom_inside written inside []
    rw [List.append_nil] at all
    rw [stripFrom_opened, all]
    rfl

theorem unended_head (unended : Unended text) : text.head? ≠ some '[' := by
  rcases unended with rfl | ⟨body, rfl, -⟩
  · simp
  · simp

theorem stripFrom_remains (remains : Remains text out) (unended : Unended rest) :
    (stripFrom written .text (text ++ rest)).toList = written.toList ++ out := by
  induction remains generalizing written with
  | done => rw [List.nil_append, stripFrom_unended written unended, List.append_nil]
  | @kept c more out plain others ih =>
    have apart : c = '\x1b' → (more ++ rest).head? ≠ some '[' := by
      intro escape
      cases more with
      | nil => exact unended_head unended
      | cons d others => exact plain escape
    rw [List.cons_append, stripFrom_kept written apart, ih, String.toList_push, List.append_assoc]
    rfl
  | dropped sequence others ih => rw [List.append_assoc, stripFrom_sequence, ih]

end Scan

section Cuts

variable {text rest out : List Char}

/-- Every text is cut into what is whole and what does not end. -/
theorem remains_all (text : List Char) :
    ∃ whole out tail, text = whole ++ tail ∧ Remains whole out ∧ Unended tail := by
  induction size : text.length using Nat.strongRecOn generalizing text with
  | _ n ih =>
    subst size
    cases text with
    | nil => exact ⟨[], [], [], rfl, .done, Or.inl rfl⟩
    | cons c rest =>
      by_cases plain : c = '\x1b' → rest.head? ≠ some '['
      · obtain ⟨whole, out, tail, rfl, remains, unended⟩ := ih rest.length (by simp) rest rfl
        have apart : c = '\x1b' → whole.head? ≠ some '[' := fun escape bracket =>
          plain escape (by rw [List.head?_append, bracket, Option.some_or])
        exact ⟨c :: whole, c :: out, tail, rfl, .kept apart remains, unended⟩
      · obtain ⟨rfl, bracket⟩ : c = '\x1b' ∧ rest.head? = some '[' := by simpa using plain
        obtain ⟨more, rfl⟩ := List.head?_eq_some_iff.mp bracket
        cases found : more.find? endsSequence with
        | none =>
          have inside := List.find?_eq_none.mp found
          exact ⟨[], [], _, rfl, .done, Or.inr ⟨more, rfl, by simpa using inside⟩⟩
        | some last =>
          obtain ⟨ends, body, others, rfl, inside⟩ := List.find?_eq_some_iff_append.mp found
          have smaller : others.length < ('\x1b' :: '[' :: (body ++ last :: others)).length := by
            simp
            omega
          obtain ⟨whole, out, tail, rfl, remains, unended⟩ := ih _ smaller others rfl
          let sequence : Sequence := ⟨body, last, by simpa using inside, ends⟩
          exact ⟨sequence.text ++ whole, out, tail, by simp [sequence, Sequence.text],
            .dropped sequence remains, unended⟩

theorem strip_of_remains {text : String} {whole tail : List Char} (cut : text.toList = whole ++ tail)
    (remains : Remains whole out) (unended : Unended tail) : (strip text).toList = out := by
  rw [strip, cut, stripFrom_remains "" remains unended]
  rfl

theorem strip_of_whole {text left : String} (remains : Remains text.toList left.toList) :
    strip text = left :=
  String.toList_inj.mp (strip_of_remains (List.append_nil _).symm remains (Or.inl rfl))

/-- What is left of a text is what remains of all that is whole in it. -/
theorem strip_remains (text : String) :
    ∃ whole tail, text.toList = whole ++ tail ∧ Remains whole (strip text).toList ∧ Unended tail := by
  obtain ⟨whole, out, tail, cut, remains, unended⟩ := remains_all text.toList
  rw [← strip_of_remains cut remains unended] at remains
  exact ⟨whole, tail, cut, remains, unended⟩

theorem remains_append {first second more : List Char} (remains : Remains first out)
    (behind : Remains second more) (apart : second.head? ≠ some '[') :
    Remains (first ++ second) (out ++ more) := by
  induction remains with
  | done => exact behind
  | @kept c rest out plain others ih =>
    have still : c = '\x1b' → (rest ++ second).head? ≠ some '[' := by
      intro escape
      cases rest with
      | nil => exact apart
      | cons d others => exact plain escape
    exact .kept still ih
  | dropped sequence others ih =>
    rw [List.append_assoc]
    exact .dropped sequence ih

theorem remains_sequences (sequences : List Sequence) (others : Remains rest out) :
    Remains (sequences.flatMap Sequence.text ++ rest) out := by
  induction sequences with
  | nil => exact others
  | cons sequence more ih =>
    rw [List.flatMap_cons, List.append_assoc]
    exact .dropped sequence ih

theorem length_remains_le (remains : Remains text out) : out.length ≤ text.length := by
  induction remains with
  | done => exact Nat.le_refl _
  | kept plain others ih => exact Nat.succ_le_succ ih
  | dropped sequence others ih =>
    rw [List.length_append]
    exact Nat.le_trans ih (Nat.le_add_left _ _)

end Cuts

section Pieces

variable {text rest out : List Char} (palette : Palette)

def startOf : Tone → Sequence
  | .strong => ⟨['1'], 'm', by simp [endsSequence], rfl⟩
  | .dim => ⟨['2'], 'm', by simp [endsSequence], rfl⟩
  | .success => ⟨['3', '2'], 'm', by simp [endsSequence], rfl⟩
  | .warning => ⟨['3', '3'], 'm', by simp [endsSequence], rfl⟩
  | .error => ⟨['3', '1'], 'm', by simp [endsSequence], rfl⟩

def ending : Sequence := ⟨['0'], 'm', by simp [endsSequence], rfl⟩

theorem toList_start (tone : Tone) : tone.start.toList = (startOf tone).text := by
  cases tone <;> rfl

theorem toList_reset : reset.toList = ending.text := rfl

/-- A text in a tone, or as it is where it has none. -/
def inTone : Option Tone → String → String
  | some tone, text => palette.paint tone text
  | none, text => text

/-- Texts in their tones, one behind the other. -/
def shown (pieces : List (Option Tone × String)) : String :=
  String.join (pieces.map fun piece => palette.inTone piece.1 piece.2)

theorem shown_cons (tone : Option Tone) (text : String) (pieces : List (Option Tone × String)) :
    palette.shown ((tone, text) :: pieces) = palette.inTone tone text ++ palette.shown pieces :=
  String.join_cons

theorem inTone_off (tone : Option Tone) (text : String) : inTone ⟨false⟩ tone text = text := by
  cases tone <;> rfl

theorem shown_off (pieces : List (Option Tone × String)) :
    shown ⟨false⟩ pieces = String.join (pieces.map Prod.snd) := by
  simp only [shown, inTone_off]

theorem remains_clean (clean : '\x1b' ∉ text) (others : Remains rest out) :
    Remains (text ++ rest) (text ++ out) := by
  induction text with
  | nil => exact others
  | cons c more ih =>
    rw [List.mem_cons, not_or] at clean
    exact .kept (fun escape => absurd escape.symm clean.1) (ih clean.2)

-- The sequences around a text in color are whole, whatever the text begins with.
theorem remains_inTone (tone : Option Tone) {text : String} (clean : '\x1b' ∉ text.toList)
    (others : Remains rest out) :
    Remains ((palette.inTone tone text).toList ++ rest) (text.toList ++ out) := by
  cases tone with
  | none => exact remains_clean clean others
  | some tone =>
    rw [inTone, paint, wrap]
    split
    · rw [String.toList_append, String.toList_append, toList_start, toList_reset, List.append_assoc,
        List.append_assoc]
      exact .dropped (startOf tone) (remains_clean clean (.dropped ending others))
    · exact remains_clean clean others

theorem digits_inside (n : Nat) : ∀ c ∈ (toString n).toList, endsSequence c = false := by
  have written : (toString n).toList = Nat.toDigits 10 n := Nat.toList_repr
  intro c inside
  rw [written] at inside
  have digit := Nat.isDigit_of_mem_toDigits (by decide) (by decide) inside
  simp only [Char.isDigit, Bool.and_eq_true, decide_eq_true_eq] at digit
  have low : ¬ '@' ≤ c := fun high => absurd (UInt32.le_trans high digit.2) (by decide)
  simp [endsSequence, low]

def colorOf (color : Color) : Sequence where
  body := "38;2;".toList ++ (toString color.red.toNat).toList ++ ";".toList ++
    (toString color.green.toNat).toList ++ ";".toList ++ (toString color.blue.toNat).toList
  last := 'm'
  inside := by
    have mark : ∀ c ∈ ";".toList, endsSequence c = false := by simp [endsSequence]
    have first : ∀ c ∈ "38;2;".toList, endsSequence c = false := by simp [endsSequence]
    simp only [List.forall_mem_append]
    exact ⟨⟨⟨⟨⟨first, digits_inside _⟩, mark⟩, digits_inside _⟩, mark⟩, digits_inside _⟩
  ends := rfl

theorem toList_color (color : Color) : color.start.toList = (colorOf color).text := by
  have opened : "\x1b[38;2;".toList = '\x1b' :: '[' :: "38;2;".toList := by decide
  have ended : "m".toList = ['m'] := by decide
  unfold Color.start Sequence.text colorOf
  simp only [String.toList_append]
  rw [opened, ended]
  simp only [List.cons_append]

theorem remains_code {pieces : List (Color × String)}
    (clean : '\x1b' ∉ (String.join (pieces.map Prod.snd)).toList) (others : Remains rest out) :
    Remains ((String.join (pieces.map fun (color, text) => color.start ++ text)).toList ++ rest)
      ((String.join (pieces.map Prod.snd)).toList ++ out) := by
  induction pieces with
  | nil => exact others
  | cons piece more ih =>
    rw [List.map_cons, String.join_cons, String.toList_append, List.mem_append, not_or] at clean
    rw [List.map_cons, List.map_cons, String.join_cons, String.join_cons]
    simp only [String.toList_append, toList_color, List.append_assoc]
    exact .dropped (colorOf piece.1) (remains_clean clean.1 (ih clean.2))

-- Whatever pieces a highlighter makes and whatever their colors are, the code is what remains.
theorem remains_highlight (highlighter : Highlighter) (language : Language) {code : String}
    (clean : '\x1b' ∉ code.toList) (others : Remains rest out) :
    Remains ((palette.highlight highlighter language code).toList ++ rest) (code.toList ++ out) := by
  unfold highlight
  split
  · have whole := highlighter.whole language code
    have ended : Remains (reset.toList ++ rest) out := toList_reset ▸ .dropped ending others
    have colored := remains_code (whole.symm ▸ clean) ended
    rw [whole] at colored
    rw [String.toList_append, List.append_assoc]
    exact colored
  · exact remains_clean clean others

example : strip (highlight ⟨true⟩ .uniform .json "[]") = "[]" := rfl

theorem remains_shown {pieces : List (Option Tone × String)}
    (clean : ∀ piece ∈ pieces, '\x1b' ∉ piece.2.toList) :
    Remains (palette.shown pieces).toList (shown ⟨false⟩ pieces).toList := by
  induction pieces with
  | nil => exact .done
  | cons piece rest ih =>
    have first := clean piece List.mem_cons_self
    have others := ih fun other later => clean other (List.mem_cons_of_mem piece later)
    rw [shown_cons, shown_cons, inTone_off, String.toList_append, String.toList_append]
    exact remains_inTone palette piece.1 first others

/-- Without its colors a text is what it would be if there were none. -/
theorem strip_shown {pieces : List (Option Tone × String)}
    (clean : ∀ piece ∈ pieces, '\x1b' ∉ piece.2.toList) :
    strip (palette.shown pieces) = shown ⟨false⟩ pieces :=
  strip_of_whole (remains_shown palette clean)

end Pieces

section Untouched

variable {text out : List Char}

theorem remains_self (free : ¬ ['\x1b', '['] <:+: text) : Remains text text := by
  induction text with
  | nil => exact .done
  | cons c rest ih =>
    rw [List.infix_cons_iff, not_or] at free
    refine .kept (fun escape bracket => free.1 ?_) (ih free.2)
    obtain ⟨more, rfl⟩ := List.head?_eq_some_iff.mp bracket
    exact ⟨more, by rw [escape]; rfl⟩

-- A text from which a sequence is taken out gets shorter.
theorem free_of_remains_self (remains : Remains text out) (same : out = text) :
    ¬ ['\x1b', '['] <:+: text := by
  induction remains with
  | done => simp
  | @kept c rest out plain others ih =>
    rw [List.infix_cons_iff, not_or]
    refine ⟨fun begins => ?_, ih (List.cons.inj same).2⟩
    obtain ⟨rfl, behind⟩ := List.cons_prefix_cons.mp begins
    obtain ⟨more, rfl⟩ := behind
    exact plain rfl rfl
  | dropped sequence others ih =>
    have shorter := length_remains_le others
    rw [same, List.length_append, Sequence.text, List.length_cons] at shorter
    omega

/-- A text stays as it is just when no escape in it is in front of a bracket. -/
theorem strip_eq_self_iff {text : String} : strip text = text ↔ ¬ mentions "\x1b[" text := by
  have pair : "\x1b[".toList = ['\x1b', '['] := rfl
  rw [mentions_iff, pair]
  constructor
  · intro same
    obtain ⟨whole, tail, cut, remains, unended⟩ := strip_remains text
    rw [same] at remains
    have shorter := length_remains_le remains
    rw [cut, List.length_append] at shorter
    obtain rfl : tail = [] := List.length_eq_zero_iff.mp (by omega)
    rw [List.append_nil] at cut
    rw [cut] at remains ⊢
    exact free_of_remains_self remains rfl
  · exact fun free => strip_of_whole (remains_self free)

end Untouched

section Rejoined

variable {text out : List Char}

/-- An escape that starts no sequence stands in front of some sequences, and a bracket behind them. -/
def Rejoins (text : List Char) : Prop :=
  ∃ before kept after, ∃ sequences : List Sequence, sequences ≠ [] ∧ Remains before kept ∧
    text = before ++ '\x1b' :: (sequences.flatMap Sequence.text ++ '[' :: after)

theorem bracket_remains (remains : Remains text out) (bracket : out.head? = some '[') :
    ∃ sequences : List Sequence, ∃ after, text = sequences.flatMap Sequence.text ++ '[' :: after := by
  induction remains with
  | done => cases bracket
  | @kept c rest out plain others ih =>
    obtain rfl : c = '[' := Option.some.inj bracket
    exact ⟨[], rest, rfl⟩
  | dropped sequence others ih =>
    obtain ⟨sequences, after, rfl⟩ := ih bracket
    exact ⟨sequence :: sequences, after, by simp⟩

theorem rejoins_of_remains (remains : Remains text out) (left : ['\x1b', '['] <:+: out) : Rejoins text := by
  induction remains with
  | done => simp at left
  | @kept c rest out plain others ih =>
    rcases List.infix_cons_iff.mp left with begins | inside
    · obtain ⟨rfl, behind⟩ := List.cons_prefix_cons.mp begins
      have bracket : out.head? = some '[' := by
        obtain ⟨more, rfl⟩ := behind
        rfl
      obtain ⟨sequences, after, rfl⟩ := bracket_remains others bracket
      refine ⟨[], [], after, sequences, ?_, .done, rfl⟩
      rintro rfl
      exact plain rfl rfl
    · obtain ⟨before, kept, after, sequences, several, begins, rfl⟩ := ih inside
      refine ⟨c :: before, c :: kept, after, sequences, several, .kept (fun escape bracket => ?_) begins, rfl⟩
      exact plain escape (by rw [List.head?_append, bracket, Option.some_or])
  | dropped sequence others ih =>
    obtain ⟨before, kept, after, sequences, several, begins, rfl⟩ := ih left
    exact ⟨sequence.text ++ before, kept, after, sequences, several, .dropped sequence begins, by simp⟩

theorem left_of_rejoins {text : String} (rejoins : Rejoins text.toList) :
    ['\x1b', '['] <:+: (strip text).toList := by
  obtain ⟨before, kept, after, sequences, several, begins, cut⟩ := rejoins
  obtain ⟨whole, out, tail, rfl, remains, unended⟩ := remains_all after
  have bracket : Remains (sequences.flatMap Sequence.text ++ '[' :: whole) ('[' :: out) :=
    remains_sequences sequences (.kept (by simp) remains)
  have behind : (sequences.flatMap Sequence.text ++ '[' :: whole).head? ≠ some '[' := by
    cases sequences with
    | nil => exact absurd rfl several
    | cons sequence more => simp [Sequence.text]
  have all : Remains (before ++ '\x1b' :: (sequences.flatMap Sequence.text ++ '[' :: whole))
      (kept ++ '\x1b' :: '[' :: out) :=
    remains_append begins (.kept (fun _ => behind) bracket) (by simp)
  rw [strip_of_remains (by simpa using cut) all unended]
  exact ⟨kept, out, by simp⟩

theorem left_iff_rejoins (text : String) : mentions "\x1b[" (strip text) ↔ Rejoins text.toList := by
  have pair : "\x1b[".toList = ['\x1b', '['] := rfl
  rw [mentions_iff, pair]
  refine ⟨fun left => ?_, left_of_rejoins⟩
  obtain ⟨whole, tail, cut, remains, unended⟩ := strip_remains text
  obtain ⟨before, kept, after, sequences, several, begins, rfl⟩ := rejoins_of_remains remains left
  exact ⟨before, kept, after ++ tail, sequences, several, begins, by simpa using cut⟩

theorem escapes_of_rejoins (rejoins : Rejoins text) : ['\x1b', '\x1b'] <:+: text := by
  obtain ⟨before, kept, after, sequences, several, begins, rfl⟩ := rejoins
  cases sequences with
  | nil => exact absurd rfl several
  | cons sequence more =>
    exact ⟨before, '[' :: (sequence.body ++ sequence.last :: (more.flatMap Sequence.text ++ '[' :: after)),
      by simp [Sequence.text]⟩

/-- An escape and a bracket are left side by side exactly where sequences stood between them, and it is then
that the text changes when it is read again. A text without two escapes in a row leaves none. -/
theorem left_where_rejoined (text : String) :
    (mentions "\x1b[" (strip text) ↔ Rejoins text.toList) ∧
      (strip (strip text) = strip text ↔ ¬ Rejoins text.toList) ∧
      (¬ mentions "\x1b\x1b" text → ¬ mentions "\x1b[" (strip text)) := by
  have pair : "\x1b\x1b".toList = ['\x1b', '\x1b'] := rfl
  refine ⟨left_iff_rejoins text, ?_, ?_⟩
  · rw [strip_eq_self_iff, left_iff_rejoins]
  · rw [mentions_iff, pair, left_iff_rejoins]
    exact fun alone rejoins => alone (escapes_of_rejoins rejoins)

-- The sequence for no color stands inside of one for red.
theorem red_left_behind :
    strip "\x1b\x1b[0m[31mred" = "\x1b[31mred" ∧ mentions "\x1b[" (strip "\x1b\x1b[0m[31mred") ∧
      strip (strip "\x1b\x1b[0m[31mred") = "red" := by
  have left : strip "\x1b\x1b[0m[31mred" = "\x1b[31mred" := rfl
  rw [left]
  exact ⟨rfl, rfl, rfl⟩

end Rejoined

end BoolQuery.Palette
