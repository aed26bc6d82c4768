import BoolQuery.Json.Nesting
import BoolQuery.Json.Reader

/-! No value that is read is nested deeper than the reader allows. What is on the stack and what the
reader stands in fit into the limit together, and each character keeps it so. -/
namespace BoolQuery.Json.Reader

section Fitting

/-- What the frame holds fits into the limit, with `outside` frames around it. -/
def Frame.fits (outside : Nat) : Frame → Prop
  | .array items => itemNesting items + outside + 1 ≤ maxNesting
  | .object members _ => memberNesting members + outside + 1 ≤ maxNesting

/-- Each frame of a stack fits with those around it. -/
def framesFit : List Frame → Prop
  | [] => True
  | frame :: outer => frame.fits outer.length ∧ framesFit outer

/-- What the reader stands in fits into the limit, with `outside` frames around it. -/
def Mode.fits (outside : Nat) : Mode → Prop
  | .value | .text _ | .numeral _ => outside ≤ maxNesting
  | .word _ whole | .done whole => whole.nesting + outside ≤ maxNesting
  | .firstItem | .firstKey => outside + 1 ≤ maxNesting
  | .key members | .keyText members _ | .colon members _ | .afterMember members =>
    memberNesting members + outside + 1 ≤ maxNesting
  | .afterItem items => itemNesting items + outside + 1 ≤ maxNesting

/-- The reader has room for all that it has read. -/
structure State.Fits (state : State) : Prop where
  frames : framesFit state.frames
  mode : state.mode.fits state.frames.length

theorem itemNesting_reverse (items : List Json) : itemNesting items.reverse = itemNesting items := by
  apply Nat.le_antisymm
  · exact itemNesting_le_iff.mpr fun item member =>
      itemNesting_le_iff.mp (Nat.le_refl _) item (List.mem_reverse.mp member)
  · exact itemNesting_le_iff.mpr fun item member =>
      itemNesting_le_iff.mp (Nat.le_refl _) item (List.mem_reverse.mpr member)

theorem memberNesting_reverse (members : List (String × Json)) :
    memberNesting members.reverse = memberNesting members := by
  apply Nat.le_antisymm
  · exact memberNesting_le_iff.mpr fun member inside =>
      memberNesting_le_iff.mp (Nat.le_refl _) member (List.mem_reverse.mp inside)
  · exact memberNesting_le_iff.mpr fun member inside =>
      memberNesting_le_iff.mp (Nat.le_refl _) member (List.mem_reverse.mpr inside)

end Fitting

section Steps

variable {frames : List Frame} {state next : State} {c : Char}

theorem fits_place (inside : framesFit frames) {value : Json}
    (fits : value.nesting + frames.length ≤ maxNesting) : (State.place frames value).Fits := by
  match frames, inside with
  | [], inside => exact ⟨inside, fits⟩
  | .array items :: outer, ⟨held, around⟩ =>
    refine ⟨around, ?_⟩
    simp only [Frame.fits, List.length_cons, State.place, Mode.fits, itemNesting] at *
    omega
  | .object members key :: outer, ⟨held, around⟩ =>
    refine ⟨around, ?_⟩
    simp only [Frame.fits, List.length_cons, State.place, Mode.fits, memberNesting] at *
    omega

theorem fits_closed (inside : framesFit frames) :
    (∀ items, itemNesting items + frames.length + 1 ≤ maxNesting →
      (State.place frames (.array items.reverse)).Fits) ∧
    ∀ members, memberNesting members + frames.length + 1 ≤ maxNesting →
      (State.place frames (.object members.reverse)).Fits := by
  constructor
  · intro items fits
    apply fits_place inside
    rw [nesting, itemNesting_reverse]
    omega
  · intro members fits
    apply fits_place inside
    rw [nesting, memberNesting_reverse]
    omega

/-- If the reader goes on, it is in a state that fits. -/
def Keeps (outcome : Except Fault State) : Prop := ∀ next, outcome = .ok next → next.Fits

theorem keeps_ok (fits : state.Fits) : Keeps (.ok state) := by
  intro next same
  cases same
  exact fits

theorem keeps_error (fault : Fault) : Keeps (.error fault) := by
  intro next same
  cases same

theorem keeps_if {condition : Prop} [Decidable condition] {first second : Except Fault State}
    (one : Keeps first) (two : Keeps second) : Keeps (if condition then first else second) := by
  split
  · exact one
  · exact two

theorem keeps_settle (fits : state.Fits) (first : Option Char) : Keeps (state.settle first) := by
  obtain ⟨frames, mode⟩ := state
  cases mode with
  | numeral numeral =>
    have placed (read : Number) : Keeps (.ok (State.place frames (.number read))) :=
      keeps_ok (fits_place fits.frames (by simpa [nesting, Mode.fits] using fits.mode))
    simp only [State.settle]
    split
    · refine keeps_if ?_ (keeps_error _)
      split
      · exact placed _
      · exact keeps_error _
    · split
      · exact keeps_ok fits
      · split
        · exact placed _
        · exact keeps_error _
      · exact keeps_error _
  | _ => exact keeps_ok fits

theorem keeps_stepValue (inside : framesFit frames) (room : frames.length ≤ maxNesting) (c : Char) :
    Keeps (State.stepValue frames c) := by
  have word (rest : List Char) {value : Json} (flat : value.nesting = 0) :
      Keeps (.ok ⟨frames, .word rest value⟩) :=
    keeps_ok ⟨inside, by simpa [Mode.fits, flat] using room⟩
  have enter {mode : Mode} (opens : mode.fits frames.length ↔ frames.length + 1 ≤ maxNesting) :
      Keeps (if frames.length < maxNesting then .ok ⟨frames, mode⟩ else .error .malformed) := by
    split
    · next more => exact keeps_ok ⟨inside, opens.mpr more⟩
    · exact keeps_error _
  simp only [State.stepValue]
  split
  case h_1 | h_2 | h_3 => exact word _ rfl
  case h_4 | h_7 => exact keeps_ok ⟨inside, room⟩
  case h_5 | h_6 => exact enter Iff.rfl
  case h_8 =>
    split
    · exact keeps_ok ⟨inside, room⟩
    · exact keeps_error _
    · exact keeps_error _

theorem keeps_step (fits : state.Fits) (c : Char) : Keeps (state.step c) := by
  obtain ⟨frames, mode⟩ := state
  have stays := keeps_ok fits
  obtain ⟨inside, room⟩ := fits
  obtain ⟨array, object⟩ := fits_closed inside
  cases mode with
  | value => exact keeps_if stays (keeps_stepValue inside room c)
  | firstItem =>
    have empty : itemNesting [] + frames.length + 1 ≤ maxNesting := by
      simpa [Mode.fits, itemNesting] using room
    have around : framesFit (.array [] :: frames) := ⟨empty, inside⟩
    exact keeps_if stays (keeps_if (keeps_ok (array [] empty)) (keeps_stepValue around room c))
  | firstKey =>
    have empty : memberNesting [] + frames.length + 1 ≤ maxNesting := by
      simpa [Mode.fits, memberNesting] using room
    exact keeps_if stays (keeps_if (keeps_ok (object [] empty))
      (keeps_if (keeps_ok ⟨inside, empty⟩) (keeps_error _)))
  | key members => exact keeps_if stays (keeps_if (keeps_ok ⟨inside, room⟩) (keeps_error _))
  | keyText members quote =>
    simp only [State.step]
    split
    · exact keeps_ok ⟨inside, room⟩
    · exact keeps_ok ⟨inside, room⟩
    · exact keeps_error _
  | colon members key =>
    have onward : Mode.fits (frames.length + 1) .value := by
      simp only [Mode.fits] at room ⊢
      omega
    exact keeps_if stays (keeps_if (keeps_ok ⟨⟨room, inside⟩, onward⟩) (keeps_error _))
  | text quote =>
    simp only [State.step]
    split
    · exact keeps_ok ⟨inside, room⟩
    · exact keeps_ok (fits_place inside (by simpa [nesting, Mode.fits] using room))
    · exact keeps_error _
  | numeral numeral =>
    simp only [State.step]
    split
    · exact keeps_ok ⟨inside, room⟩
    · exact keeps_error _
    · exact keeps_error _
  | word expected whole =>
    cases expected with
    | nil => exact keeps_error _
    | cons letter rest =>
      exact keeps_if (keeps_error _)
        (keeps_if (keeps_ok (fits_place inside room)) (keeps_ok ⟨inside, room⟩))
  | afterItem items =>
    have onward : Mode.fits (frames.length + 1) .value := by
      simp only [Mode.fits] at room ⊢
      omega
    exact keeps_if stays (keeps_if (keeps_ok ⟨⟨room, inside⟩, onward⟩)
      (keeps_if (keeps_ok (array items room)) (keeps_error _)))
  | afterMember members =>
    exact keeps_if stays (keeps_if (keeps_ok ⟨inside, room⟩)
      (keeps_if (keeps_ok (object members room)) (keeps_error _)))
  | done whole => exact keeps_error _

end Steps

section Runs

-- A run that comes to a value is there already, or reads one more character.
theorem run_complete_cases {state : State} {text rest : List Char} {value : Json}
    (read : state.run text = .complete value rest) :
    ∃ settled, state.settle text.head? = .ok settled ∧ (settled.mode = .done value ∨
      ∃ c more next, text = c :: more ∧ settled.step c = .ok next ∧
        next.run more = .complete value rest) := by
  unfold State.run at read
  split at read
  · cases read
  · next settled same =>
    refine ⟨settled, same, ?_⟩
    split at read
    · next whole done =>
      cases read
      exact Or.inl done
    · cases read
    · next c more _ =>
      split at read
      · next next taken => exact Or.inr ⟨c, more, next, rfl, taken, read⟩
      · cases read

theorem nesting_of_run {state : State} (fits : state.Fits) {text rest : List Char} {value : Json}
    (read : state.run text = .complete value rest) : value.nesting ≤ maxNesting := by
  induction text generalizing state with
  | nil =>
    obtain ⟨settled, same, done | ⟨c, more, next, impossible, -⟩⟩ := run_complete_cases read
    · have mode := (keeps_settle fits _ settled same).mode
      rw [done] at mode
      exact Nat.le_trans (Nat.le_add_right _ _) mode
    · cases impossible
  | cons c text ih =>
    obtain ⟨settled, same, done | ⟨_, _, next, heads, taken, onward⟩⟩ := run_complete_cases read
    · have mode := (keeps_settle fits _ settled same).mode
      rw [done] at mode
      exact Nat.le_trans (Nat.le_add_right _ _) mode
    · cases heads
      exact ih (keeps_step (keeps_settle fits _ settled same) c next taken) onward

/-- A value that is read is nested no deeper than the limit. -/
theorem nesting_of_complete {text rest : List Char} {value : Json}
    (read : State.run {} text = .complete value rest) : value.nesting ≤ maxNesting := by
  refine nesting_of_run ⟨?_, ?_⟩ read
  · trivial
  · exact Nat.zero_le _

end Runs

end BoolQuery.Json.Reader
