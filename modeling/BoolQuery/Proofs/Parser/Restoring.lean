import BoolQuery.Parser.Cursor

/-! Calls of a rule that succeed hand back the count that they were given, with the cursor further on.
That is so from every account, whatever the tokens and with any number of steps: calls that run out of
steps do not succeed. -/
namespace BoolQuery.Parser.Cursor
open Token

section Calling

variable {α β : Type} {first : Calls α} {more : α → Calls β} {before middle after : Account}

theorem bind_eq (first : Calls α) (more : α → Calls β) (before : Account) :
    (first >>= more) before =
      match first before with
      | (.ok value, middle) => more value middle
      | (.error halt, after) => (.error halt, after) := by
  show (match first before with | (outcome, after) => ExceptT.bindCont more outcome after) = _
  rcases first before with ⟨outcome, after⟩
  cases outcome <;> rfl

theorem ends_bind {value : α} {outcome : Except Halt β} (early : Ends first before (.ok value) middle)
    (late : Ends (more value) middle outcome after) : Ends (first >>= more) before outcome after := by
  rw [Ends, bind_eq, early]
  exact late

theorem ends_broken {halt : Halt} (early : Ends first before (.error halt) after) :
    Ends (first >>= more) before (.error halt) after := by
  rw [Ends, bind_eq, early]

theorem ends_bind_ok {value : β} (ends : Ends (first >>= more) before (.ok value) after) :
    ∃ early middle, Ends first before (.ok early) middle ∧
      Ends (more early) middle (.ok value) after := by
  rw [Ends, bind_eq] at ends
  split at ends
  · next early middle begins => exact ⟨early, middle, begins, ends⟩
  · cases ends

theorem enter_eq (limit : Nat) (token : Token) (around : List Token) (before : Account) :
    enter limit token around before =
      if before.depth + 1 < Width.full64 then
        (if before.depth + 1 > limit then .error (.refused (.tooDeep limit token.offset)) else .ok (),
          before.counting (before.depth + 1) (token :: around))
      else (.error .miscount, before) := by
  show (if _ then _ else _ : Calls Unit) before = _
  split
  · show (if _ then _ else _ : Calls Unit) (before.counting _ _) = _
    split <;> rfl
  · rfl

theorem leave_eq (around : List Token) (before : Account) :
    leave around before =
      match before.depth with
      | depth + 1 => (.ok (), before.counting depth around)
      | 0 => (.error .miscount, before) := by
  obtain ⟨position, depth, moments⟩ := before
  cases depth <;> rfl

theorem entered_of_ok {limit : Nat} {token : Token} {around : List Token} {value : Unit}
    (ends : Ends (enter limit token around) before (.ok value) after) :
    after = before.counting (before.depth + 1) (token :: around) := by
  unfold Ends at ends
  rw [enter_eq] at ends
  split at ends
  · exact (Prod.mk.inj ends).2.symm
  · cases ends

theorem left_of_ok {around : List Token} {value : Unit}
    (ends : Ends (leave around) before (.ok value) after) :
    ∃ depth, before.depth = depth + 1 ∧ after = before.counting depth around := by
  unfold Ends at ends
  rw [leave_eq] at ends
  split at ends
  · next depth open_ =>
    cases ends
    exact ⟨depth, open_, rfl⟩
  · cases ends

end Calling

section Restoring

variable {α β : Type} {tokens : List Token}

/-- Calls that succeed hand back the count that they were given, and the cursor has moved so far. -/
def Moves (far : Nat → Nat → Prop) (calls : Calls α) : Prop :=
  ∀ before value after, Ends calls before (.ok value) after →
    after.depth = before.depth ∧ far before.position after.position

/-- The cursor is further on. -/
def Restores (calls : Calls α) : Prop := Moves (· < ·) calls

/-- The cursor is further on or where it was. -/
def Keeps (calls : Calls α) : Prop := Moves (· ≤ ·) calls

variable {first : Calls α} {more : α → Calls β}

theorem moves_bind {far further whole : Nat → Nat → Prop} (early : Moves far first)
    (late : ∀ value, Moves further (more value))
    (together : ∀ a b c, far a b → further b c → whole a c) : Moves whole (first >>= more) := by
  intro before value after ends
  obtain ⟨result, middle, begins, goes⟩ := ends_bind_ok ends
  obtain ⟨depth, onward⟩ := early before result middle begins
  obtain ⟨same, beyond⟩ := late result middle value after goes
  exact ⟨same.trans depth, together _ _ _ onward beyond⟩

theorem keeps_bind (early : Keeps first) (late : ∀ value, Keeps (more value)) :
    Keeps (first >>= more) :=
  moves_bind early late fun _ _ _ => Nat.le_trans

theorem restores_bind (early : Restores first) (late : ∀ value, Keeps (more value)) :
    Restores (first >>= more) :=
  moves_bind early late fun _ _ _ => Nat.lt_of_lt_of_le

theorem restores_behind (early : Keeps first) (late : ∀ value, Restores (more value)) :
    Restores (first >>= more) :=
  moves_bind early late fun _ _ _ => Nat.lt_of_le_of_lt

theorem keeps_of_restores {calls : Calls α} (restores : Restores calls) : Keeps calls := by
  intro before value after ends
  obtain ⟨depth, onward⟩ := restores before value after ends
  exact ⟨depth, Nat.le_of_lt onward⟩

theorem keeps_pure (value : α) : Keeps (pure value) := by
  rintro before result after ⟨⟩
  exact ⟨rfl, Nat.le_refl _⟩

theorem restores_throw (halt : Halt) : Restores (throw halt : Calls α) := by
  rintro before result after ⟨⟩

theorem keeps_current : Keeps (current tokens) := by
  rintro before token after ⟨⟩
  exact ⟨rfl, Nat.le_refl _⟩

theorem keeps_fieldName : Keeps (fieldName? tokens) := by
  rintro before name after ⟨⟩
  exact ⟨rfl, Nat.le_refl _⟩

theorem keeps_advance (around : List Token) : Keeps (advance tokens around) := by
  rintro before _ after ⟨⟩
  show (before.passed _ _).depth = _ ∧ _ ≤ (before.passed _ _).position
  unfold Account.passed
  split
  · exact ⟨rfl, Nat.le_succ _⟩
  · exact ⟨rfl, Nat.le_refl _⟩

-- Only a token in front of the end stands for something, so the cursor is not at the end.
theorem restores_one {meaning : Kind → Option α} (noStop : meaning .stop = none) (around : List Token)
    (lack : Lack) : Restores (readOne tokens around meaning lack) := by
  intro before value after ends
  obtain ⟨token, middle, ⟨⟩, ends⟩ := ends_bind_ok ends
  by_cases inside : before.position < tokens.length
  · split at ends
    · obtain ⟨_, passed, ⟨⟩, ⟨⟩⟩ := ends_bind_ok ends
      show (before.passed _ _).depth = _ ∧ _ < (before.passed _ _).position
      simp only [Account.passed, inside, if_true]
      exact ⟨rfl, Nat.lt_succ_self _⟩
    · cases ends
  · have stop : (tokenAt tokens before.position).kind = .stop := by
      rw [tokenAt, List.getElem?_eq_none (Nat.le_of_not_lt inside)]
      rfl
    rw [stop, noStop] at ends
    cases ends

theorem restores_range (around : List Token) (field : String) :
    Restores (readRange tokens around field) := by
  refine restores_behind keeps_current fun opening => ?_
  refine restores_behind (keeps_advance around) fun _ => ?_
  refine restores_bind (restores_one rfl around _) fun lower => ?_
  refine keeps_bind (keeps_of_restores (restores_one rfl around _)) fun _ => ?_
  refine keeps_bind (keeps_of_restores (restores_one rfl around _)) fun upper => ?_
  refine keeps_bind (keeps_of_restores (restores_one rfl around _)) fun withUpper => ?_
  exact keeps_pure _

theorem restores_term (around : List Token) : Restores (readTerm tokens around) := by
  refine restores_behind keeps_fieldName fun name => ?_
  cases name with
  | none => exact restores_bind (restores_one rfl around _) fun value => keeps_pure _
  | some field =>
    refine restores_behind (keeps_advance around) fun _ => ?_
    refine restores_behind (keeps_advance around) fun _ => ?_
    refine restores_behind keeps_current fun opening => ?_
    split
    · exact restores_range around field
    · exact restores_bind (restores_one rfl around _) fun value => keeps_pure _

-- What is entered is left again where the calls inside succeed.
theorem restores_inside {inside : Calls α} (limit : Nat) (token : Token) (around : List Token)
    (restores : Restores inside) (late : ∀ value, Keeps (more value)) :
    Restores (do
      enter limit token around
      let value ← inside
      leave around
      more value) := by
  intro before value after ends
  obtain ⟨_, entered, begins, ends⟩ := ends_bind_ok ends
  obtain ⟨result, middle, reads, ends⟩ := ends_bind_ok ends
  obtain ⟨_, left, leaves, ends⟩ := ends_bind_ok ends
  obtain ⟨depth, onward⟩ := restores entered result middle reads
  obtain ⟨same, further⟩ := late result left value after ends
  obtain rfl := entered_of_ok begins
  obtain ⟨count, open_, rfl⟩ := left_of_ok leaves
  simp only [Account.counting, Account.note] at *
  omega

end Restoring

section Rules

variable {tokens : List Token} {limit steps : Nat}

/-- With so many steps, every rule restores what it is given. -/
structure RulesRestore (tokens : List Token) (limit steps : Nat) : Prop where
  range : ∀ around field, Restores (readRange tokens around field)
  term : ∀ around, Restores (readTerm tokens around)
  primary : ∀ around, Restores (readPrimary tokens limit around steps)
  not : ∀ around, Restores (readNot tokens limit around steps)
  and : ∀ around earlier, Restores (readAnd tokens limit around earlier steps)
  or : ∀ around earlier, Restores (readOr tokens limit around earlier steps)

theorem primary_restores (fewer : RulesRestore tokens limit steps) (around : List Token) :
    Restores (readPrimary tokens limit around (steps + 1)) := by
  refine restores_behind keeps_current fun token => ?_
  split
  · refine restores_behind (keeps_advance around) fun _ => ?_
    refine restores_inside limit token around (fewer.or _ []) fun inner => ?_
    refine keeps_bind keeps_current fun closing => ?_
    split
    · exact keeps_bind (keeps_advance around) fun _ => keeps_pure inner
    · exact keeps_of_restores (restores_throw _)
  · exact restores_term around

theorem not_restores (fewer : RulesRestore tokens limit steps) (around : List Token) :
    Restores (readNot tokens limit around (steps + 1)) := by
  refine restores_behind keeps_current fun token => ?_
  split
  · refine restores_behind (keeps_advance around) fun _ => ?_
    exact restores_inside limit token around (fewer.not _) fun inner => keeps_pure _
  · exact fewer.primary around

theorem and_restores (fewer : RulesRestore tokens limit steps) (around : List Token)
    (earlier : List Condition) : Restores (readAnd tokens limit around earlier (steps + 1)) := by
  refine restores_bind (fewer.not around) fun operand => ?_
  refine keeps_bind keeps_current fun token => ?_
  split
  · exact keeps_bind (keeps_advance around) fun _ => keeps_of_restores (fewer.and around _)
  · exact keeps_pure _

-- Where OR is left out the turn of the loop itself consumes nothing: its operand does.
theorem or_restores (fewer : RulesRestore tokens limit steps) (around : List Token)
    (earlier : List Condition) : Restores (readOr tokens limit around earlier (steps + 1)) := by
  refine restores_bind (fewer.and around []) fun operand => ?_
  refine keeps_bind keeps_current fun token => ?_
  split
  · exact keeps_bind (keeps_advance around) fun _ => keeps_of_restores (fewer.or around _)
  · split
    · exact keeps_pure _
    · exact keeps_of_restores (fewer.or around _)

/-- Every rule restores what it is given. -/
theorem rules_restore (tokens : List Token) (limit steps : Nat) : RulesRestore tokens limit steps := by
  induction steps with
  | zero =>
    exact ⟨restores_range, restores_term, fun _ => restores_throw _, fun _ => restores_throw _,
      fun _ _ => restores_throw _, fun _ _ => restores_throw _⟩
  | succ steps fewer =>
    exact ⟨restores_range, restores_term, primary_restores fewer, not_restores fewer,
      and_restores fewer, or_restores fewer⟩

end Rules

end BoolQuery.Parser.Cursor
