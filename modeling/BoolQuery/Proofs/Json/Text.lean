import BoolQuery.Json.Nesting
import BoolQuery.Json.Reader
import BoolQuery.Json.Writer
import Mathlib.Tactic.IntervalCases

/-! What is written as JSON is read again. The writer goes on behind what is written already, so each
fact is about a text that has led the reader from its start to some state: one more piece of text
leads it on. Numbers are left out. -/
namespace BoolQuery.Json.Reader

section Leading

/-- Behind the text the reader is in the next state, whatever comes then. -/
def Leads (start : State) (text : String) (next : State) : Prop :=
  ∀ rest, start.run (text.toList ++ rest) = next.run rest

/-- The reader goes on with any character, or refuses it as one that is wrong. -/
def Mode.isOpen : Mode → Bool
  | .numeral _ | .done _ => false
  | _ => true

variable {start state next : State} {out text : String} {c : Char}

theorem run_open (goesOn : state.mode.isOpen) (c : Char) (rest : List Char) :
    state.run (c :: rest) =
      match state.step c with
      | .ok next => next.run rest
      | .error fault => .stopped state fault := by
  obtain ⟨frames, mode⟩ := state
  cases mode with
  | numeral numeral => cases goesOn
  | done value => cases goesOn
  | _ => rfl

theorem leads_append (first : Leads start out state) (second : Leads state text next) :
    Leads start (out ++ text) next := by
  intro rest
  rw [String.toList_append, List.append_assoc, first, second]

theorem leads_push (leads : Leads start out state) (goesOn : state.mode.isOpen)
    (taken : state.step c = .ok next) : Leads start (out.push c) next := by
  intro rest
  rw [String.toList_push, List.append_assoc, leads, List.singleton_append, run_open goesOn, taken]

theorem append_mark {mark : String} (spelled : mark.toList = [c]) : out ++ mark = out.push c := by
  apply String.toList_inj.mp
  rw [String.toList_append, String.toList_push, spelled]

end Leading

section Strings

/-- The string behind some characters of it, none of which ends it. -/
def Quote.reads (quote : Quote) : List Char → Option Quote
  | [] => some quote
  | c :: rest =>
    match quote.next c with
    | .ok (some next) => next.reads rest
    | _ => none

theorem reads_append {quote middle : Quote} {first : List Char} (read : quote.reads first = some middle)
    (second : List Char) : quote.reads (first ++ second) = middle.reads second := by
  induction first generalizing quote with
  | nil =>
    cases read
    rfl
  | cons c rest ih =>
    simp only [Quote.reads, List.cons_append] at read ⊢
    split at read
    · exact ih read
    · cases read

theorem control_of_letter {c letter : Char} (escaped : controlLetter? c = some letter) :
    c.toNat < 0x20 := by
  unfold controlLetter? at escaped
  split at escaped
  all_goals first | decide | cases escaped

-- The two digits of the code of a control character name it again.
theorem reads_control (n : Nat) (control : n < 0x20) (text : String) :
    Quote.reads ⟨text, .plain⟩ (stringChar (Char.ofNat n)) =
      some ⟨text.push (Char.ofNat n), .plain⟩ := by
  interval_cases n <;> rfl

theorem reads_char (text : String) (c : Char) :
    Quote.reads ⟨text, .plain⟩ (stringChar c) = some ⟨text.push c, .plain⟩ := by
  by_cases control : c.toNat < 0x20
  · have coded := reads_control c.toNat control text
    rwa [Char.ofNat_toNat] at coded
  by_cases marked : c = '\x22' ∨ c = '\\'
  · rcases marked with rfl | rfl <;> rfl
  obtain ⟨noQuote, noBackslash⟩ := not_or.mp marked
  have unescaped : controlLetter? c = none := by
    cases escaped : controlLetter? c with
    | none => rfl
    | some letter => exact absurd (control_of_letter escaped) control
  have plain : stringChar c = [c] := by
    simp [stringChar, noQuote, noBackslash, unescaped, control]
  simp [plain, Quote.reads, Quote.next, noQuote, noBackslash, control]

theorem reads_text (text : String) (characters : List Char) :
    Quote.reads ⟨text, .plain⟩ (characters.flatMap stringChar) =
      some ⟨text ++ String.ofList characters, .plain⟩ := by
  induction characters generalizing text with
  | nil => simp [Quote.reads]
  | cons c rest ih =>
    rw [List.flatMap_cons, reads_append (reads_char text c), ih]
    simp [String.ofList_cons, ← String.append_assoc]

theorem stringText_append (text : String) (rest : List Char) :
    (stringText text).toList ++ rest =
      '\x22' :: (text.toList.flatMap stringChar ++ '\x22' :: rest) := by
  simp [stringText]

/-- In this mode the characters are those of a string, and its last quote leads to `ends`. -/
def Quotes (frames : List Frame) (mode : Quote → Mode) (ends : String → State) : Prop :=
  ∀ quote, (mode quote).isOpen ∧ ∀ c, State.step ⟨frames, mode quote⟩ c =
    match quote.next c with
    | .ok (some next) => .ok ⟨frames, mode next⟩
    | .ok none => .ok (ends quote.text)
    | .error fault => .error fault

variable {frames : List Frame} {mode : Quote → Mode} {ends : String → State}

theorem quotes_text : Quotes frames .text fun text => State.place frames (.string text) := by
  intro quote
  exact ⟨rfl, fun c => rfl⟩

theorem quotes_key (members : List (String × Json)) :
    Quotes frames (.keyText members) fun text => ⟨frames, .colon members text⟩ := by
  intro quote
  exact ⟨rfl, fun c => rfl⟩

theorem run_reads (quotes : Quotes frames mode ends) {quote last : Quote} {text : List Char}
    (read : quote.reads text = some last) (rest : List Char) :
    State.run ⟨frames, mode quote⟩ (text ++ rest) = State.run ⟨frames, mode last⟩ rest := by
  induction text generalizing quote with
  | nil =>
    cases read
    rfl
  | cons c text ih =>
    obtain ⟨goesOn, step⟩ := quotes quote
    simp only [Quote.reads] at read
    split at read
    · next next taken =>
      rw [List.cons_append, run_open goesOn, step, taken]
      exact ih read
    · cases read

/-- Behind its opening quote a string is read to its end. -/
theorem run_string (quotes : Quotes frames mode ends) (text : String) (rest : List Char) :
    State.run ⟨frames, mode {}⟩ (text.toList.flatMap stringChar ++ '\x22' :: rest) =
      (ends text).run rest := by
  obtain ⟨goesOn, step⟩ := quotes ⟨text, .plain⟩
  have read : Quote.reads {} (text.toList.flatMap stringChar) = some ⟨text, .plain⟩ := by
    rw [reads_text]
    simp
  rw [run_reads quotes read, run_open goesOn, step]
  rfl

end Strings

section Gaps

variable {start state : State} {out : String}

/-- Blanks are passed over here. -/
def Skips (state : State) : Prop :=
  state.mode.isOpen ∧ ∀ c, isBlank c → state.step c = .ok state

theorem leads_blanks (skips : Skips state) (leads : Leads start out state) (count : Nat) :
    Leads start (out.pushn ' ' count) state := by
  induction count with
  | zero => exact leads
  | succ count ih => exact leads_push ih skips.1 (skips.2 ' ' rfl)

theorem leads_newline (skips : Skips state) (leads : Leads start out state) (level : Nat) :
    Leads start (newline level out) state :=
  leads_blanks skips (leads_push leads skips.1 (skips.2 '\n' rfl)) (2 * level)

end Gaps

section Values

variable {start state : State} {out : String} {frames : List Frame}

/-- A value can start here, inside of these frames. The first item of an array may be missing, so it
stands in a mode of its own. -/
inductive Begins : State → List Frame → Prop
  | value (frames : List Frame) : Begins ⟨frames, .value⟩ frames
  | item (frames : List Frame) : Begins ⟨frames, .firstItem⟩ (.array [] :: frames)

theorem begins_open (begins : Begins state frames) : state.mode.isOpen := by
  cases begins <;> rfl

theorem begins_skips (begins : Begins state frames) : Skips state := by
  refine ⟨begins_open begins, fun c blank => ?_⟩
  cases begins <;> simp only [State.step, blank, if_true]

theorem begins_step (begins : Begins state frames) {c : Char} (full : isBlank c = false)
    (going : c ≠ ']') : state.step c = State.stepValue frames c := by
  cases begins <;> simp [State.step, full, going]

theorem leads_begins (begins : Begins state frames) (leads : Leads start out state) {c : Char}
    {next : State} (full : isBlank c = false) (going : c ≠ ']')
    (taken : State.stepValue frames c = .ok next) : Leads start (out.push c) next :=
  leads_push leads (begins_open begins) (by rw [begins_step begins full going, taken])

theorem leads_string (begins : Begins state frames) (leads : Leads start out state) (text : String) :
    Leads start (out ++ stringText text) (State.place frames (.string text)) := by
  apply leads_append leads
  intro rest
  have opened := begins_step begins (c := '\x22') rfl (by decide)
  rw [stringText_append, run_open (begins_open begins), opened]
  exact run_string quotes_text text rest

-- A key, the colon and a blank.
theorem leads_key {members : List (String × Json)} (goesOn : state.mode.isOpen)
    (opened : state.step '\x22' = .ok ⟨frames, .keyText members {}⟩) (leads : Leads start out state)
    (key : String) :
    Leads start (out ++ stringText key ++ ": ") ⟨.object members key :: frames, .value⟩ := by
  have named : Leads start (out ++ stringText key) ⟨frames, .colon members key⟩ := by
    apply leads_append leads
    intro rest
    rw [stringText_append, run_open goesOn, opened]
    exact run_string (quotes_key members) key rest
  exact leads_append named fun rest => rfl

theorem leads_word (begins : Begins state frames) (leads : Leads start out state) :
    Leads start (out ++ "null") (State.place frames .null) ∧
      ∀ value, Leads start (out ++ toString value) (State.place frames (.bool value)) := by
  constructor
  · apply leads_append leads
    intro rest
    have first := begins_step begins (c := 'n') rfl (by decide)
    have spelled : "null".toList = ['n', 'u', 'l', 'l'] := by decide
    rw [spelled, List.cons_append, run_open (begins_open begins), first]
    rfl
  · intro value
    apply leads_append leads
    intro rest
    cases value with
    | true =>
      have first := begins_step begins (c := 't') rfl (by decide)
      have spelled : (toString true).toList = ['t', 'r', 'u', 'e'] := by decide
      rw [spelled, List.cons_append, run_open (begins_open begins), first]
      rfl
    | false =>
      have first := begins_step begins (c := 'f') rfl (by decide)
      have spelled : (toString false).toList = ['f', 'a', 'l', 's', 'e'] := by decide
      rw [spelled, List.cons_append, run_open (begins_open begins), first]
      rfl

-- The bracket that opens an array or an object, where there is room for one more.
theorem leads_enter (begins : Begins state frames) (leads : Leads start out state)
    (room : frames.length < maxNesting) :
    Leads start (out ++ "[") ⟨frames, .firstItem⟩ ∧
      Leads start (out ++ "\x7b") ⟨frames, .firstKey⟩ := by
  have array : State.stepValue frames '[' = .ok ⟨frames, .firstItem⟩ := if_pos room
  have object : State.stepValue frames '\x7b' = .ok ⟨frames, .firstKey⟩ := if_pos room
  rw [append_mark (c := '[') rfl, append_mark (c := '\x7b') rfl]
  exact ⟨leads_begins begins leads rfl (by decide) array,
    leads_begins begins leads rfl (by decide) object⟩

theorem leads_itemsEnd {items : List Json} (leads : Leads start out ⟨frames, .afterItem items⟩)
    (level : Nat) :
    Leads start (newline level out ++ "]") (State.place frames (.array items.reverse)) := by
  have skips : Skips ⟨frames, .afterItem items⟩ := ⟨rfl, fun c blank => by
    simp only [State.step, blank, if_true]⟩
  rw [append_mark (c := ']') rfl]
  exact leads_push (leads_newline skips leads level) rfl rfl

theorem leads_membersEnd {members : List (String × Json)}
    (leads : Leads start out ⟨frames, .afterMember members⟩) (level : Nat) :
    Leads start (newline level out ++ "\x7d") (State.place frames (.object members.reverse)) := by
  have skips : Skips ⟨frames, .afterMember members⟩ := ⟨rfl, fun c blank => by
    simp only [State.step, blank, if_true]⟩
  rw [append_mark (c := '\x7d') rfl]
  exact leads_push (leads_newline skips leads level) rfl rfl

theorem leads_firstKey (leads : Leads start out ⟨frames, .firstKey⟩) (level : Nat) (key : String) :
    Leads start (newline level out ++ stringText key ++ ": ")
      ⟨.object [] key :: frames, .value⟩ := by
  have skips : Skips ⟨frames, .firstKey⟩ := ⟨rfl, fun c blank => by
    simp only [State.step, blank, if_true]⟩
  exact leads_key rfl rfl (leads_newline skips leads level) key

theorem leads_nextKey {members : List (String × Json)}
    (leads : Leads start out ⟨frames, .afterMember members⟩) (level : Nat) (key : String) :
    Leads start (newline level (out ++ ",") ++ stringText key ++ ": ")
      ⟨.object members key :: frames, .value⟩ := by
  have behind : Leads start (out ++ ",") ⟨frames, .key members⟩ := by
    rw [append_mark (c := ',') rfl]
    exact leads_push leads rfl rfl
  have skips : Skips ⟨frames, .key members⟩ := ⟨rfl, fun c blank => by
    simp only [State.step, blank, if_true]⟩
  exact leads_key rfl rfl (leads_newline skips behind level) key

theorem leads_nextItem {items : List Json} (leads : Leads start out ⟨frames, .afterItem items⟩)
    (level : Nat) : Leads start (newline level (out ++ ",")) ⟨.array items :: frames, .value⟩ := by
  have behind : Leads start (out ++ ",") ⟨.array items :: frames, .value⟩ := by
    rw [append_mark (c := ',') rfl]
    exact leads_push leads rfl rfl
  exact leads_newline (begins_skips (.value _)) behind level

mutual

/-- A value that is written where one can start is read, unless it is nested too deep. -/
theorem leads_value (value : Json) (plain : value.numberless) {start state : State} {out : String}
    {frames : List Frame} (begins : Begins state frames) (leads : Leads start out state)
    (fits : frames.length + value.nesting ≤ maxNesting) (level : Nat) :
    Leads start (writeValue level out value) (State.place frames value) := by
  match value with
  | .null => exact (leads_word begins leads).1
  | .bool value => exact (leads_word begins leads).2 value
  | .number value => cases plain
  | .string text => exact leads_string begins leads text
  | .array [] =>
    rw [nesting] at fits
    have entered := (leads_enter begins leads (by omega)).1
    have spelled : "[]" = "[" ++ "]" := by decide
    rw [writeValue, spelled, ← String.append_assoc, append_mark (c := ']') rfl]
    exact leads_push entered rfl rfl
  | .array (first :: rest) =>
    simp only [nesting, itemNesting] at fits
    simp only [numberless, numberlessItems, Bool.and_eq_true] at plain
    have entered := (leads_enter begins leads (by omega)).1
    have opened := leads_newline (begins_skips (.item frames)) entered (level + 1)
    have one := leads_value first plain.1 (.item frames) opened
      (by simp only [List.length_cons]; omega) (level + 1)
    have others := leads_items rest plain.2 one (by omega) level
    have ended := leads_itemsEnd others level
    rw [writeValue]
    simpa using ended
  | .object [] =>
    rw [nesting] at fits
    have entered := (leads_enter begins leads (by omega)).2
    have spelled : "\x7b\x7d" = "\x7b" ++ "\x7d" := by decide
    rw [writeValue, spelled, ← String.append_assoc, append_mark (c := '\x7d') rfl]
    exact leads_push entered rfl rfl
  | .object ((key, first) :: rest) =>
    simp only [nesting, memberNesting] at fits
    simp only [numberless, numberlessMembers, Bool.and_eq_true] at plain
    have entered := (leads_enter begins leads (by omega)).2
    have named := leads_firstKey entered (level + 1) key
    have one := leads_value first plain.1 (.value _) named
      (by simp only [List.length_cons]; omega) (level + 1)
    have others := leads_members rest plain.2 one (by omega) level
    have ended := leads_membersEnd others level
    rw [writeValue]
    simpa using ended

/-- Items behind others are read in order. -/
theorem leads_items (items : List Json) (plain : numberlessItems items) {start : State} {out : String}
    {frames : List Frame} {earlier : List Json} (leads : Leads start out ⟨frames, .afterItem earlier⟩)
    (fits : frames.length + itemNesting items + 1 ≤ maxNesting) (level : Nat) :
    Leads start (writeItems level out items) ⟨frames, .afterItem (items.reverse ++ earlier)⟩ := by
  match items with
  | [] => exact leads
  | item :: rest =>
    simp only [itemNesting] at fits
    simp only [numberlessItems, Bool.and_eq_true] at plain
    have behind := leads_nextItem leads (level + 1)
    have one := leads_value item plain.1 (.value _) behind
      (by simp only [List.length_cons]; omega) (level + 1)
    have others := leads_items rest plain.2 one (by omega) level
    rw [writeItems]
    simpa using others

/-- Members behind others are read in order. -/
theorem leads_members (members : List (String × Json)) (plain : numberlessMembers members)
    {start : State} {out : String} {frames : List Frame} {earlier : List (String × Json)}
    (leads : Leads start out ⟨frames, .afterMember earlier⟩)
    (fits : frames.length + memberNesting members + 1 ≤ maxNesting) (level : Nat) :
    Leads start (writeMembers level out members)
      ⟨frames, .afterMember (members.reverse ++ earlier)⟩ := by
  match members with
  | [] => exact leads
  | (key, value) :: rest =>
    simp only [memberNesting] at fits
    simp only [numberlessMembers, Bool.and_eq_true] at plain
    have named := leads_nextKey leads (level + 1) key
    have one := leads_value value plain.1 (.value _) named
      (by simp only [List.length_cons]; omega) (level + 1)
    have others := leads_members rest plain.2 one (by omega) level
    rw [writeMembers]
    simpa using others

end

/-- A whole value is read from its text when it is not nested too deep. -/
theorem leads_pretty {value : Json} (plain : value.numberless) (fits : value.nesting ≤ maxNesting) :
    Leads {} value.pretty ⟨[], .done value⟩ := by
  have leads : Leads {} "" {} := fun rest => rfl
  exact leads_value value plain (.value []) leads (by simpa using fits) 0

end Values

end BoolQuery.Json.Reader
