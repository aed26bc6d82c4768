import BoolQuery.Proofs.Parser.Descent
import BoolQuery.Proofs.Parser.Restoring

/-! What is right about the account at every moment of parsing: the cursor is on a token, and the count
is that of the NOTs and groups around it. The calls of the rules are followed next to the descent, which
comes to an end: they come to what it reads, and with it to what the machine comes to. -/
namespace BoolQuery.Parser.Cursor
open Token

section Moments

/-- A moment at which the count is right: what is counted are the NOTs and parentheses around it, which
are tokens that the cursor has passed, each at a place of its own. The cursor is on a token. -/
structure Moment.Counted (tokens : List Token) (moment : Moment) : Prop where
  inside : moment.position < tokens.length
  depth : moment.depth = moment.around.length
  passed : moment.around.reverse.Sublist (tokens.take moment.position)
  opening : ∀ token ∈ moment.around, token.kind = .not ∨ token.kind = .openParen

/-- At all moments the count is right and within the limit. -/
def Kept (tokens : List Token) (limit : Nat) (moments : List Moment) : Prop :=
  ∀ moment ∈ moments, moment.Counted tokens ∧ moment.depth ≤ limit

/-- Inside the groups and NOTs around it, the account is in front of the rest of the tokens. -/
structure Account.At (tokens : List Token) (limit : Nat) (around rest : List Token)
    (account : Account) : Prop where
  ahead : tokens.drop account.position = rest
  counted : Moment.Counted tokens ⟨account.position, account.depth, around⟩
  room : account.depth ≤ limit
  past : Kept tokens limit account.moments

/-- The account of calls that were refused: only the last moment can be one too deep, and then that is
why. -/
def Account.Stopped (tokens : List Token) (limit : Nat) (fault : Fault) (account : Account) : Prop :=
  Kept tokens limit account.moments ∨ ∃ latest earlier offset, account.moments = latest :: earlier ∧
    Kept tokens limit earlier ∧ latest.Counted tokens ∧ latest.depth = limit + 1 ∧
    fault = .tooDeep limit offset

variable {tokens around rest : List Token} {limit : Nat} {token : Token} {before : Account}

theorem kept_cons {moments : List Moment} {moment : Moment} (past : Kept tokens limit moments)
    (counted : moment.Counted tokens) (room : moment.depth ≤ limit) :
    Kept tokens limit (moment :: moments) :=
  List.forall_mem_cons.mpr ⟨⟨counted, room⟩, past⟩

theorem rest_ne_nil (at_ : before.At tokens limit around rest) : rest ≠ [] := by
  rw [← at_.ahead]
  exact fun empty => Nat.not_le_of_lt at_.counted.inside (List.drop_eq_nil_iff.mp empty)

theorem head_ahead {position : Nat} (ahead : tokens.drop position = token :: rest) :
    tokens[position]? = some token := by
  rw [← List.head?_drop, ahead]
  rfl

theorem tokenAt_head {position : Nat} (ahead : tokens.drop position = token :: rest) :
    tokenAt tokens position = token := by
  rw [tokenAt, head_ahead ahead]
  rfl

theorem next_ahead (at_ : before.At tokens limit around (token :: rest)) :
    tokens.drop (before.position + 1) = rest := by
  rw [← List.drop_drop, at_.ahead]
  rfl

-- Behind a token that is not the last, the cursor is on the next one.
theorem at_passed (at_ : before.At tokens limit around (token :: rest)) (more : rest ≠ []) :
    (before.passed tokens.length around).At tokens limit around rest := by
  have behind := next_ahead at_
  have inside : before.position + 1 < tokens.length := by
    apply Nat.lt_of_not_le
    intro beyond
    rw [List.drop_eq_nil_of_le beyond] at behind
    exact more behind.symm
  have counted : Moment.Counted tokens ⟨before.position + 1, before.depth, around⟩ :=
    ⟨inside, at_.counted.depth, at_.counted.passed.trans
      (List.take_prefix_take_left (Nat.le_succ _)).sublist, at_.counted.opening⟩
  simp only [Account.passed, at_.counted.inside, if_true]
  exact ⟨behind, counted, at_.room, kept_cons at_.past counted at_.room⟩

-- Behind a NOT or a parenthesis, one more is open.
theorem counted_entered (at_ : before.At tokens limit around (token :: rest)) (more : rest ≠ [])
    (opening : token.kind = .not ∨ token.kind = .openParen) :
    Moment.Counted tokens ⟨(before.passed tokens.length around).position,
      (before.passed tokens.length around).depth + 1, token :: around⟩ := by
  have onward := (at_passed at_ more).counted
  refine ⟨onward.inside, congrArg (· + 1) onward.depth, ?_,
    List.forall_mem_cons.mpr ⟨opening, at_.counted.opening⟩⟩
  simp only [Account.passed, at_.counted.inside, if_true]
  show List.Sublist _ (tokens.take (before.position + 1))
  rw [List.reverse_cons, List.take_add_one, head_ahead at_.ahead]
  exact at_.counted.passed.append (List.Sublist.refl _)

-- Outside of what is left the account counts what was around it before.
theorem at_left (at_ : before.At tokens limit (token :: around) rest) :
    ∃ depth, before.depth = depth + 1 ∧ (before.counting depth around).At tokens limit around rest := by
  have size : before.depth = around.length + 1 := at_.counted.depth
  have room : around.length ≤ limit := Nat.le_of_succ_le (Nat.le_trans (Nat.le_of_eq size.symm) at_.room)
  have fewer : around.reverse.Sublist (token :: around).reverse := by
    rw [List.reverse_cons]
    exact List.sublist_append_left _ _
  have counted : Moment.Counted tokens ⟨before.position, around.length, around⟩ :=
    ⟨at_.counted.inside, rfl, fewer.trans at_.counted.passed,
      fun other member => at_.counted.opening other (List.mem_cons_of_mem token member)⟩
  exact ⟨around.length, size, at_.ahead, counted, room, kept_cons at_.past counted room⟩

end Moments

section Agreement

variable {α β γ δ : Type} {tokens around input others : List Token} {limit : Nat} {before : Account}

/-- The calls come to what was read: to what it means, with the same tokens ahead and inside of the same
groups and NOTs, or to the same fault. -/
def Agrees (tokens : List Token) (limit : Nat) (around : List Token) (calls : Calls α)
    (before : Account) (meaning : β → α) : Except Fault (Descent.Reading β input) → Prop
  | .ok reading => ∃ after, Ends calls before (.ok (meaning reading.value)) after ∧
      after.At tokens limit around reading.rest
  | .error fault => ∃ after, Ends calls before (.error (.refused fault)) after ∧
      after.Stopped tokens limit fault

-- What calls do that the descent does not notice.
theorem agrees_behind {first : Calls α} {more : α → Calls γ} {value : α} {middle : Account}
    {result : δ → γ} {outcome : Except Fault (Descent.Reading δ others)}
    (ends : Ends first before (.ok value) middle)
    (onward : Agrees tokens limit around (more value) middle result outcome) :
    Agrees tokens limit around (first >>= more) before result outcome := by
  cases outcome with
  | error fault =>
    obtain ⟨after, goes, stopped⟩ := onward
    exact ⟨after, ends_bind ends goes, stopped⟩
  | ok last =>
    obtain ⟨after, goes, reached⟩ := onward
    exact ⟨after, ends_bind ends goes, reached⟩

theorem agrees_bind {first : Calls α} {more : α → Calls γ} {inner : List Token} {meaning : β → α}
    {result : δ → γ} {early : Except Fault (Descent.Reading β input)}
    {late : Descent.Reading β input → Except Fault (Descent.Reading δ others)}
    (agrees : Agrees tokens limit inner first before meaning early)
    (onward : ∀ reading after, after.At tokens limit inner reading.rest →
      Agrees tokens limit around (more (meaning reading.value)) after result (late reading)) :
    Agrees tokens limit around (first >>= more) before result (early >>= late) := by
  cases early with
  | error fault =>
    obtain ⟨after, ends, stopped⟩ := agrees
    exact ⟨after, ends_broken ends, stopped⟩
  | ok reading =>
    obtain ⟨middle, ends, arrived⟩ := agrees
    exact agrees_behind ends (onward reading middle arrived)

-- The descent only carries further what it read: the calls have nothing to do.
theorem agrees_wider {calls : Calls α} {meaning : β → α} {onto : δ → α}
    {outcome : Except Fault (Descent.Reading β input)}
    (agrees : Agrees tokens limit around calls before meaning outcome)
    (wider : Descent.Reading β input → Descent.Reading δ others)
    (same : ∀ reading, onto (wider reading).value = meaning reading.value ∧
      (wider reading).rest = reading.rest) :
    Agrees tokens limit around calls before onto (outcome >>= fun reading => .ok (wider reading)) := by
  cases outcome with
  | error fault => exact agrees
  | ok reading =>
    obtain ⟨after, ends, arrived⟩ := agrees
    obtain ⟨value, rest⟩ := same reading
    exact ⟨after, by rw [value]; exact ends, by rw [rest]; exact arrived⟩

/-- The last token is a stop. -/
def Ended (tokens : List Token) : Prop := ∀ last ∈ tokens.getLast?, last.kind = .stop

theorem ended_more {token : Token} {rest : List Token} (ended : Ended tokens)
    (at_ : before.At tokens limit around (token :: rest)) (going : token.kind ≠ .stop) : rest ≠ [] := by
  rintro rfl
  have last : tokens.getLast? = some token := by
    rw [← List.take_append_drop before.position tokens, at_.ahead]
    exact List.getLast?_concat
  exact going (ended token last)

variable {token : Token} {rest : List Token}

theorem agrees_current {more : Token → Calls γ} {result : δ → γ}
    {outcome : Except Fault (Descent.Reading δ others)}
    (at_ : before.At tokens limit around (token :: rest))
    (onward : Agrees tokens limit around (more token) before result outcome) :
    Agrees tokens limit around (current tokens >>= more) before result outcome := by
  have ends : Ends (current tokens) before (.ok token) before := by
    rw [← tokenAt_head at_.ahead]
    rfl
  exact agrees_behind ends onward

theorem agrees_advance {more : Unit → Calls γ} {result : δ → γ}
    {outcome : Except Fault (Descent.Reading δ others)} (ended : Ended tokens)
    (at_ : before.At tokens limit around (token :: rest)) (going : token.kind ≠ .stop)
    (onward : ∀ next, next.At tokens limit around rest →
      Agrees tokens limit around (more ()) next result outcome) :
    Agrees tokens limit around (advance tokens around >>= more) before result outcome :=
  agrees_behind rfl (onward _ (at_passed at_ (ended_more ended at_ going)))

theorem agrees_pure {value : α} {reading : Descent.Reading β input} {meaning : β → α}
    (at_ : before.At tokens limit around reading.rest) (same : meaning reading.value = value) :
    Agrees tokens limit around (pure value) before meaning (.ok reading) := by
  subst same
  exact ⟨before, rfl, at_⟩

theorem agrees_refused {fault : Fault} {meaning : β → α}
    (at_ : before.At tokens limit around rest) :
    Agrees tokens limit around (throw (.refused fault) : Calls α) before meaning
      (.error fault : Except Fault (Descent.Reading β input)) :=
  ⟨before, rfl, Or.inl at_.past⟩

end Agreement

section Terms

variable {α : Type} {tokens around rest : List Token} {limit : Nat} {before : Account}

theorem agrees_one {meaning : Kind → Option α} (noStop : meaning .stop = none) (lack : Lack)
    (ended : Ended tokens) (at_ : before.At tokens limit around rest) :
    Agrees tokens limit around (readOne tokens around meaning lack) before id
      (Descent.readOne meaning lack rest) := by
  cases rest with
  | nil => exact absurd rfl (rest_ne_nil at_)
  | cons token rest =>
    refine agrees_current at_ ?_
    cases stands : meaning token.kind with
    | none =>
      simp only [Descent.readOne, stands]
      exact agrees_refused at_
    | some value =>
      have going : token.kind ≠ .stop := by
        intro stop
        rw [stop, noStop] at stands
        cases stands
      simp only [Descent.readOne, stands]
      exact agrees_advance ended at_ going fun next arrived => agrees_pure arrived rfl

theorem agrees_range (field : String) {opening : Token} (ended : Ended tokens)
    (at_ : before.At tokens limit around (opening :: rest)) (going : opening.kind ≠ .stop) :
    Agrees tokens limit around (readRange tokens around field) before id
      (Descent.readRange field (opening.kind = .openBracket) rest) := by
  refine agrees_current at_ (agrees_advance ended at_ going fun next inside => ?_)
  refine agrees_bind (agrees_one rfl _ ended inside) fun lower after behind => ?_
  refine agrees_bind (agrees_one rfl _ ended behind) fun between after behind => ?_
  refine agrees_bind (agrees_one rfl _ ended behind) fun upper after behind => ?_
  refine agrees_bind (agrees_one rfl _ ended behind) fun closing after behind => ?_
  exact agrees_pure behind rfl

theorem agrees_scoped (field : String) (ended : Ended tokens)
    (at_ : before.At tokens limit around rest) :
    Agrees tokens limit around (do
        let opening ← current tokens
        if opening.kind = .openBracket ∨ opening.kind = .openBrace then readRange tokens around field
        else do
          let value ← readOne tokens around value? (.fieldValue field)
          return .holds field value) before id (Descent.readScoped field rest) := by
  unfold Descent.readScoped
  split
  · next offset rest =>
    refine agrees_current at_ ?_
    rw [if_pos (Or.inl rfl)]
    exact agrees_wider (agrees_range field ended at_ (by simp)) _ fun _ => ⟨rfl, rfl⟩
  · next offset rest =>
    refine agrees_current at_ ?_
    rw [if_pos (Or.inr rfl)]
    exact agrees_wider (agrees_range field ended at_ (by simp)) _ fun _ => ⟨rfl, rfl⟩
  · next noBracket noBrace =>
    obtain ⟨⟨kind, offset⟩, rest, rfl⟩ := List.exists_cons_of_ne_nil (rest_ne_nil at_)
    have plain : ¬ (kind = .openBracket ∨ kind = .openBrace) := by
      rintro (rfl | rfl)
      · exact noBracket offset rest rfl
      · exact noBrace offset rest rfl
    refine agrees_current at_ ?_
    rw [if_neg plain]
    exact agrees_bind (agrees_one rfl _ ended at_) fun value after behind => agrees_pure behind rfl

theorem field_ahead {field : String} {offset place : Nat}
    (at_ : before.At tokens limit around (⟨.word field, offset⟩ :: ⟨.colon, place⟩ :: rest)) :
    fieldAt? tokens before.position = some field := by
  rw [fieldAt?, tokenAt_head at_.ahead, tokenAt_head (next_ahead at_)]

theorem no_field_ahead (at_ : before.At tokens limit around rest)
    (noField : ∀ field offset place more, rest ≠ ⟨.word field, offset⟩ :: ⟨.colon, place⟩ :: more) :
    fieldAt? tokens before.position = none := by
  obtain ⟨⟨kind, offset⟩, more, rfl⟩ := List.exists_cons_of_ne_nil (rest_ne_nil at_)
  have second := next_ahead at_
  rw [fieldAt?, tokenAt_head at_.ahead]
  split
  · next name word colon =>
    cases more with
    | nil =>
      have beyond : tokens[before.position + 1]? = none := by rw [← List.head?_drop, second]; rfl
      rw [tokenAt, beyond] at colon
      cases colon
    | cons next others =>
      obtain ⟨kind, place⟩ := next
      rw [tokenAt_head second] at colon
      cases word
      cases colon
      exact absurd rfl (noField name offset place others)
  · rfl

theorem agrees_term (ended : Ended tokens) (at_ : before.At tokens limit around rest) :
    Agrees tokens limit around (readTerm tokens around) before id (Descent.readTerm rest) := by
  unfold Descent.readTerm
  split
  · next field offset place rest =>
    have named : Ends (fieldName? tokens) before (.ok (some field)) before := by
      rw [← field_ahead at_]
      rfl
    refine agrees_behind named ?_
    refine agrees_advance ended at_ (by simp) fun next inside => ?_
    refine agrees_advance ended inside (by simp) fun after behind => ?_
    exact agrees_wider (agrees_scoped field ended behind) _ fun _ => ⟨rfl, rfl⟩
  · next noField =>
    have unnamed : Ends (fieldName? tokens) before (.ok none) before := by
      rw [← no_field_ahead at_ noField]
      rfl
    refine agrees_behind unnamed ?_
    exact agrees_bind (agrees_one rfl _ ended at_) fun value after behind => agrees_pure behind rfl

end Terms

section Descending

variable {γ : Type} {tokens input rest : List Token} {token : Token} {limit depth : Nat}

/-- Wherever so much is open and the input is ahead, the calls come to what the descent reads. Steps are
enough if there are four for every token ahead, one for each rule that may be called there, and some for
the rules that are still to be called in front of the first token. -/
def Reads (tokens : List Token) (limit depth : Nat) (input : List Token) (rules : Nat)
    (calls : List Token → Nat → Calls Condition) (meaning : Condition → Condition)
    (outcome : Except Fault (Descent.Reading Condition input)) : Prop :=
  ∀ around steps before, around.length = depth → 4 * input.length + rules ≤ steps →
    before.At tokens limit around input →
    Agrees tokens limit around (calls around steps) before meaning outcome

def ReadsOr (tokens : List Token) (limit depth : Nat) (input : List Token) : Prop :=
  ∀ earlier, Reads tokens limit depth input 4 (readOr tokens limit · earlier)
    (Condition.joinOnto .or · earlier) (Descent.readOr limit depth input)

def ReadsAnd (tokens : List Token) (limit depth : Nat) (input : List Token) : Prop :=
  ∀ earlier, Reads tokens limit depth input 3 (readAnd tokens limit · earlier)
    (Condition.joinOnto .and · earlier) (Descent.readAnd limit depth input)

def ReadsNot (tokens : List Token) (limit depth : Nat) (input : List Token) : Prop :=
  Reads tokens limit depth input 2 (readNot tokens limit) id (Descent.readNot limit depth input)

def ReadsPrimary (tokens : List Token) (limit depth : Nat) (input : List Token) : Prop :=
  Reads tokens limit depth input 1 (readPrimary tokens limit) id
    (Descent.readPrimary limit depth input)

-- The token that is one too many is counted before it is refused, and then nothing goes on.
theorem agrees_entered {around : List Token} {before : Account} {calls : Unit → Calls Condition}
    {meaning : Condition → Condition}
    {inside : Except Fault (Descent.Reading Condition (token :: rest))}
    (narrow : limit + 1 < Width.full64) (ended : Ended tokens)
    (opening : token.kind = .not ∨ token.kind = .openParen)
    (at_ : before.At tokens limit around (token :: rest))
    (agrees : ∀ next, next.At tokens limit (token :: around) rest →
      Agrees tokens limit around (calls ()) next meaning inside) :
    Agrees tokens limit around (advance tokens around >>= fun _ => enter limit token around >>= calls)
      before meaning (do Descent.enter limit around.length token; inside) := by
  have going : token.kind ≠ .stop := by
    rcases opening with kind | kind
    all_goals simp [kind]
  have more := ended_more ended at_ going
  have passed := at_passed at_ more
  have counted := counted_entered at_ more opening
  have passes : Ends (advance tokens around) before (.ok ()) (before.passed tokens.length around) := rfl
  refine agrees_behind passes ?_
  generalize before.passed tokens.length around = next at passed counted ⊢
  have size : next.depth = around.length := passed.counted.depth
  have within : next.depth + 1 < Width.full64 :=
    Nat.lt_of_le_of_lt (Nat.succ_le_succ passed.room) narrow
  have entered := enter_eq limit token around next
  rw [if_pos within] at entered
  by_cases full : next.depth + 1 > limit
  · have refused : Descent.enter limit around.length token = .error (.tooDeep limit token.offset) :=
      if_pos (size ▸ full)
    rw [refused]
    rw [if_pos full] at entered
    have latest : next.depth + 1 = limit + 1 := Nat.le_antisymm (Nat.succ_le_succ passed.room) full
    exact ⟨_, ends_broken entered, Or.inr ⟨_, _, _, rfl, passed.past, counted, latest, rfl⟩⟩
  · have allowed : Descent.enter limit around.length token = .ok () := if_neg (size ▸ full)
    rw [allowed]
    rw [if_neg full] at entered
    have room : next.depth + 1 ≤ limit := Nat.le_of_not_lt full
    exact agrees_behind entered
      (agrees _ ⟨passed.ahead, counted, room, kept_cons passed.past counted room⟩)

theorem agrees_leave {around : List Token} {before : Account} {more : Unit → Calls Condition}
    {meaning : Condition → Condition} {outcome : Except Fault (Descent.Reading Condition input)}
    (at_ : before.At tokens limit (token :: around) rest)
    (onward : ∀ next, next.At tokens limit around rest →
      Agrees tokens limit around (more ()) next meaning outcome) :
    Agrees tokens limit around (leave around >>= more) before meaning outcome := by
  obtain ⟨depth, open_, left⟩ := at_left at_
  have leaves : Ends (leave around) before (.ok ()) (before.counting depth around) := by
    rw [Ends, leave_eq, open_]
  exact agrees_behind leaves (onward _ left)

theorem reads_not (narrow : limit + 1 < Width.full64) (ended : Ended tokens) (kind : token.kind = .not)
    (inside : ReadsNot tokens limit (depth + 1) rest) :
    ReadsNot tokens limit depth (token :: rest) := by
  rintro around (_ | steps) before rfl enough at_
  · omega
  rw [readNot, Descent.readNot]
  refine agrees_current at_ ?_
  simp only [kind, if_true]
  refine agrees_entered narrow ended (Or.inl kind) at_ fun next inner => ?_
  have further : 4 * rest.length + 2 ≤ steps := by
    rw [List.length_cons] at enough
    omega
  refine agrees_bind (inside _ steps next rfl further inner) fun reading after behind => ?_
  exact agrees_leave behind fun last left => agrees_pure left rfl

theorem reads_operand (kind : token.kind ≠ .not)
    (plain : ReadsPrimary tokens limit depth (token :: rest)) :
    ReadsNot tokens limit depth (token :: rest) := by
  rintro around (_ | steps) before size enough at_
  · omega
  rw [readNot, Descent.readNot]
  refine agrees_current at_ ?_
  simp only [kind, if_false]
  exact plain around steps before size (by omega) at_

theorem reads_group (narrow : limit + 1 < Width.full64) (ended : Ended tokens)
    (kind : token.kind = .openParen) (inside : ReadsOr tokens limit (depth + 1) rest) :
    ReadsPrimary tokens limit depth (token :: rest) := by
  rintro around (_ | steps) before rfl enough at_
  · omega
  rw [readPrimary, Descent.readPrimary]
  refine agrees_current at_ ?_
  simp only [kind, if_true]
  refine agrees_entered narrow ended (Or.inr kind) at_ fun next inner => ?_
  have further : 4 * rest.length + 4 ≤ steps := by
    rw [List.length_cons] at enough
    omega
  refine agrees_bind (inside [] _ steps next rfl further inner) fun reading after behind => ?_
  refine agrees_leave behind fun last left => ?_
  obtain ⟨value, ahead, shorter⟩ := reading
  cases ahead with
  | nil => exact absurd rfl (rest_ne_nil left)
  | cons closing more =>
    refine agrees_current left ?_
    by_cases closed : closing.kind = .closeParen
    · simp only [closed, if_true]
      exact agrees_advance ended left (by simp [closed]) fun final passed => agrees_pure passed rfl
    · simp only [closed, if_false]
      exact agrees_refused left

theorem reads_term (ended : Ended tokens) (kind : token.kind ≠ .openParen) :
    ReadsPrimary tokens limit depth (token :: rest) := by
  rintro around (_ | steps) before size enough at_
  · omega
  rw [readPrimary, Descent.readPrimary]
  refine agrees_current at_ ?_
  simp only [kind, if_false]
  exact agrees_term ended at_

-- What the loop has read so far stands in front of what the descent still reads.
theorem reads_and (ended : Ended tokens) (first : ReadsNot tokens limit depth input)
    (others : ∀ (left : Descent.Reading Condition input) (token : Token) (rest : List Token),
      left.rest = token :: rest → ReadsAnd tokens limit depth rest) :
    ReadsAnd tokens limit depth input := by
  rintro earlier around (_ | steps) before size enough at_
  · omega
  dsimp only
  rw [readAnd, Descent.readAnd]
  refine agrees_bind (first around steps before size (by omega) at_) fun left after behind => ?_
  obtain ⟨value, ahead, shorter⟩ := left
  cases ahead with
  | nil => exact absurd rfl (rest_ne_nil behind)
  | cons token rest =>
    refine agrees_current behind ?_
    by_cases joins : token.kind = .and
    · simp only [joins, if_true]
      refine agrees_advance ended behind (by simp [joins]) fun next passed => ?_
      have further : 4 * rest.length + 3 ≤ steps := by
        rw [List.length_cons] at shorter
        omega
      have again := others ⟨value, _, shorter⟩ token rest rfl (value :: earlier) around steps next
        size further passed
      exact agrees_wider again _ fun right => ⟨rfl, rfl⟩
    · simp only [joins, if_false]
      exact agrees_pure behind rfl

theorem reads_or (ended : Ended tokens) (first : ReadsAnd tokens limit depth input)
    (others : ∀ (left : Descent.Reading Condition input) (token : Token) (rest : List Token),
      left.rest = token :: rest → ReadsOr tokens limit depth rest)
    (beside : ∀ (left : Descent.Reading Condition input) (token : Token) (rest : List Token),
      left.rest = token :: rest → ReadsOr tokens limit depth (token :: rest)) :
    ReadsOr tokens limit depth input := by
  rintro earlier around (_ | steps) before size enough at_
  · omega
  dsimp only
  rw [readOr, Descent.readOr]
  refine agrees_bind (first [] around steps before size (by omega) at_) fun left after behind => ?_
  obtain ⟨value, ahead, shorter⟩ := left
  cases ahead with
  | nil => exact absurd rfl (rest_ne_nil behind)
  | cons token rest =>
    refine agrees_current behind ?_
    have further : 4 * (token :: rest).length + 4 ≤ steps := by omega
    by_cases joins : token.kind = .or
    · simp only [joins, if_true]
      refine agrees_advance ended behind (by simp [joins]) fun next passed => ?_
      rw [List.length_cons] at further
      have again := others ⟨value, _, shorter⟩ token rest rfl (value :: earlier) around steps next
        size (by omega) passed
      exact agrees_wider again _ fun right => ⟨rfl, rfl⟩
    by_cases closing : Descent.closes token.kind
    · simp only [joins, closing, if_false, if_true]
      exact agrees_pure behind rfl
    · simp only [joins, closing, if_false]
      have again := beside ⟨value, _, shorter⟩ token rest rfl (value :: earlier) around steps after
        size further behind
      exact agrees_wider again _ fun right => ⟨rfl, rfl⟩

theorem reads_nil (rules : Nat) (calls : List Token → Nat → Calls Condition)
    (meaning : Condition → Condition) (outcome : Except Fault (Descent.Reading Condition [])) :
    Reads tokens limit depth [] rules calls meaning outcome :=
  fun _ _ _ _ _ at_ => absurd rfl (rest_ne_nil at_)

/-- Every rule reads what the descent reads, wherever it is called. -/
theorem reads_readOr (narrow : limit + 1 < Width.full64) (ended : Ended tokens) (depth : Nat)
    (input : List Token) : ReadsOr tokens limit depth input := by
  -- Induction as the rules of the descent call each other, with a case for each way to begin.
  apply Descent.readOr.induct (ReadsOr tokens limit) (ReadsAnd tokens limit) (ReadsNot tokens limit)
    (ReadsPrimary tokens limit)
  case case1 => exact fun depth input => reads_or ended
  case case2 => exact fun depth input => reads_and ended
  case case3 => exact fun depth => reads_nil _ _ _ _
  case case4 => exact fun depth token rest => reads_not narrow ended
  case case5 => exact fun depth token rest => reads_operand
  case case6 => exact fun depth => reads_nil _ _ _ _
  case case7 => exact fun depth token rest => reads_group narrow ended
  case case8 => exact fun depth token rest => reads_term ended

end Descending

section Parsing

variable {tokens rest : List Token} {token : Token} {limit : Nat}

theorem ended_of_closed (closed : Closed tokens) : Ended tokens := by
  obtain ⟨body, stop, rfl, ends, -⟩ := closed
  intro last same
  rw [List.getLast?_concat] at same
  cases same
  exact ends

theorem stops_of_closed (closed : Closed tokens) : Stops tokens := by
  obtain ⟨body, stop, rfl, ends, -⟩ := closed
  exact ⟨stop, by simp, ends⟩

theorem at_start (limit : Nat) (more : tokens ≠ []) : Account.start.At tokens limit [] tokens := by
  have counted : Moment.Counted tokens ⟨0, 0, []⟩ :=
    ⟨List.length_pos_iff.mpr more, rfl, List.nil_sublist _, nofun⟩
  exact ⟨rfl, counted, Nat.zero_le _, kept_cons nofun counted (Nat.zero_le _)⟩

/-- How the account is left behind: all moments are right, unless the tokens were refused. -/
def Account.Over (tokens : List Token) (limit : Nat) (account : Account) : Except Fault Condition → Prop
  | .ok _ => Kept tokens limit account.moments
  | .error fault => account.Stopped tokens limit fault

-- Behind the outermost chain there is the stop, or what is left is too much.
theorem concludes {last : Account} (value : Condition) (at_ : last.At tokens limit [] (token :: rest)) :
    let outcome : Except Fault Condition :=
      if token.kind = .stop then .ok value else .error (.trailing token.offset)
    Ends (do
        let token ← current tokens
        if token.kind = .stop then return value
        else throw (.refused (.trailing token.offset))) last (outcome.mapError .refused) last ∧
      last.Over tokens limit outcome := by
  have next : Ends (current tokens) last (.ok token) last := by
    rw [← tokenAt_head at_.ahead]
    rfl
  dsimp only
  by_cases stops : token.kind = .stop
  · simp only [stops, if_true]
    refine ⟨ends_bind next ?_, at_.past⟩
    rw [if_pos stops]
    rfl
  · simp only [stops, if_false]
    refine ⟨ends_bind next ?_, Or.inl at_.past⟩
    rw [if_neg stops]
    rfl

-- The calls start with nothing open, and come to what the descent comes to.
theorem parses_as_descent {steps : Nat} (narrow : limit + 1 < Width.full64) (ended : Ended tokens)
    (more : tokens ≠ []) (enough : 4 * tokens.length + 4 ≤ steps) :
    ∃ last, Ends (parseTokens limit tokens steps) .start
        ((Descent.parseTokens limit tokens).mapError .refused) last ∧
      last.Over tokens limit (Descent.parseTokens limit tokens) := by
  have start := at_start limit more
  have reads := reads_readOr narrow ended 0 tokens [] [] steps .start rfl enough start
  obtain ⟨first, rest, rfl⟩ := List.exists_cons_of_ne_nil more
  have begins : Ends (current (first :: rest)) .start (.ok first) .start := rfl
  by_cases atEnd : first.kind = .stop
  · refine ⟨.start, ends_bind begins ?_, ?_⟩
    all_goals simp only [Descent.parseTokens, atEnd, if_true]
    · rfl
    · exact Or.inl start.past
  simp only [Descent.parseTokens, atEnd, if_false]
  cases outcome : Descent.readOr limit 0 (first :: rest) with
  | error fault =>
    rw [outcome] at reads
    obtain ⟨last, ends, stopped⟩ := reads
    refine ⟨last, ends_bind begins ?_, stopped⟩
    rw [if_neg atEnd]
    exact ends_broken ends
  | ok whole =>
    rw [outcome] at reads
    obtain ⟨last, ends, arrived⟩ := reads
    obtain ⟨value, ahead, shorter⟩ := whole
    obtain ⟨token, behind, rfl⟩ := List.exists_cons_of_ne_nil (rest_ne_nil arrived)
    obtain ⟨finishes, kept⟩ := concludes value arrived
    refine ⟨last, ends_bind begins ?_, kept⟩
    rw [if_neg atEnd]
    exact ends_bind ends finishes

/-- While tokens are parsed that end with their only stop, the cursor stays on one of them and the count
is that of the NOTs and groups that are open, each opened by a token that was passed. It is within the
limit, but for a last moment at which the parser refuses the token that was one too many; it never
falls below zero. With four steps for every token parsing comes to an end, with the result that the
machine has: every call of a rule that succeeds hands back the count that it was given and has moved the
cursor on. -/
theorem cursor_and_count_kept {tokens : List Token} {limit : Nat} (closed : Closed tokens)
    (narrow : limit + 1 < Width.full64) :
    (∀ steps, 4 * tokens.length + 4 ≤ steps →
      ∃ last, Ends (parseTokens limit tokens steps) .start
          ((Parser.parseTokens limit tokens).mapError .refused) last ∧
        last.Over tokens limit (Parser.parseTokens limit tokens)) ∧
    ∀ steps, RulesRestore tokens limit steps := by
  refine ⟨fun steps enough => ?_, rules_restore tokens limit⟩
  have stops := stops_of_closed closed
  have more : tokens ≠ [] := by
    rintro rfl
    exact stops_ne_nil stops
  rw [reads_as_descent stops]
  exact parses_as_descent narrow (ended_of_closed closed) more enough

-- The group in the NOT is one too much, and the count is past the limit when it is refused.
theorem group_in_not_one_too_deep :
    ∃ last, Ends (parseTokens 1 [⟨.not, 0⟩, ⟨.openParen, 4⟩, ⟨.word "a", 5⟩, ⟨.closeParen, 6⟩,
        ⟨.stop, 7⟩] 24) .start (.error (.refused (.tooDeep 1 4))) last ∧
      last.Stopped [⟨.not, 0⟩, ⟨.openParen, 4⟩, ⟨.word "a", 5⟩, ⟨.closeParen, 6⟩, ⟨.stop, 7⟩] 1
        (.tooDeep 1 4) := by
  have closed : Closed [⟨.not, 0⟩, ⟨.openParen, 4⟩, ⟨.word "a", 5⟩, ⟨.closeParen, 6⟩, ⟨.stop, 7⟩] :=
    ⟨[⟨.not, 0⟩, ⟨.openParen, 4⟩, ⟨.word "a", 5⟩, ⟨.closeParen, 6⟩], ⟨.stop, 7⟩, rfl, rfl, by decide⟩
  have machine : Parser.parseTokens 1
      [⟨.not, 0⟩, ⟨.openParen, 4⟩, ⟨.word "a", 5⟩, ⟨.closeParen, 6⟩, ⟨.stop, 7⟩] =
        .error (.tooDeep 1 4) := rfl
  obtain ⟨runs, -⟩ := cursor_and_count_kept closed (by decide : 1 + 1 < Width.full64)
  obtain ⟨last, ends, stopped⟩ := runs 24 (Nat.le_refl _)
  rw [machine] at ends stopped
  exact ⟨last, ends, stopped⟩

-- With room for both, the count goes up at the NOT and at the group and down behind them.
example : (parseTokens 2 [⟨.not, 0⟩, ⟨.openParen, 4⟩, ⟨.word "a", 5⟩, ⟨.closeParen, 6⟩, ⟨.stop, 7⟩]
    24 .start).2.moments.map (·.depth) = [0, 1, 1, 2, 2, 1, 1, 0, 0] := by
  rfl

end Parsing

end BoolQuery.Parser.Cursor
