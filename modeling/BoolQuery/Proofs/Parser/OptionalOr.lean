import BoolQuery.Proofs.Parser.Acceptance

/-! OR may be left out wherever it stands. What the grammar derives with an OR between two operands
it derives without one, so the tokens that are left after any of the ORs are dropped stand for the
same condition. -/
namespace BoolQuery.Parser
open Token Grammar

section Drops

/-- `Drops gone items fewer`: some of the items that may be gone are left out, the others stay in
order. -/
inductive Drops {α : Type} (gone : α → Prop) : List α → List α → Prop
  | nil : Drops gone [] []
  | keep (item : α) {items fewer : List α} (others : Drops gone items fewer) :
    Drops gone (item :: items) (item :: fewer)
  | drop {item : α} {items fewer : List α} (may : gone item) (others : Drops gone items fewer) :
    Drops gone (item :: items) fewer

variable {α β : Type} {gone : α → Prop} {items fewer : List α}

theorem drops_append {first second : List α} (dropped : Drops gone (first ++ second) fewer) :
    ∃ before behind, fewer = before ++ behind ∧ Drops gone first before ∧
      Drops gone second behind := by
  induction first generalizing fewer with
  | nil => exact ⟨[], fewer, rfl, .nil, dropped⟩
  | cons item rest ih =>
    cases dropped with
    | keep _ others =>
      obtain ⟨before, behind, rfl, inFirst, inSecond⟩ := ih others
      exact ⟨item :: before, behind, rfl, .keep item inFirst, inSecond⟩
    | drop may others =>
      obtain ⟨before, behind, rfl, inFirst, inSecond⟩ := ih others
      exact ⟨before, behind, rfl, .drop may inFirst, inSecond⟩

theorem drops_cons {item : α} (stays : ¬ gone item) (dropped : Drops gone (item :: items) fewer) :
    ∃ rest, fewer = item :: rest ∧ Drops gone items rest := by
  cases dropped with
  | keep _ others => exact ⟨_, rfl, others⟩
  | drop may others => exact absurd may stays

-- Where nothing may be gone nothing is.
theorem drops_stays (stay : ∀ item ∈ items, ¬ gone item) (dropped : Drops gone items fewer) :
    fewer = items := by
  induction dropped with
  | nil => rfl
  | keep item others ih =>
    rw [ih fun other member => stay other (List.mem_cons_of_mem item member)]
  | drop may others ih => exact absurd may (stay _ List.mem_cons_self)

theorem drops_map {lost : β → Prop} (image : α → β) (same : ∀ item, gone item → lost (image item))
    (dropped : Drops gone items fewer) : Drops lost (items.map image) (fewer.map image) := by
  induction dropped with
  | nil => exact .nil
  | keep item others ih => exact .keep (image item) ih
  | drop may others ih => exact .drop (same _ may) ih

-- Items that may be gone end no prefix, so the prefixes are related as the lists are.
theorem drops_takeWhile {inside : α → Bool} (goOn : ∀ item, gone item → inside item)
    (dropped : Drops gone items fewer) :
    Drops gone (items.takeWhile inside) (fewer.takeWhile inside) := by
  induction dropped with
  | nil => exact .nil
  | keep item others ih =>
    by_cases within : inside item
    · rw [List.takeWhile_cons_of_pos within, List.takeWhile_cons_of_pos within]
      exact .keep item ih
    · rw [List.takeWhile_cons_of_neg within, List.takeWhile_cons_of_neg within]
      exact .nil
  | drop may others ih =>
    rw [List.takeWhile_cons_of_pos (goOn _ may)]
    exact .drop may ih

theorem drops_filter [DecidableEq α] (lost : α) (items : List α) :
    Drops (· = lost) items (items.filter (· ≠ lost)) := by
  induction items with
  | nil => exact .nil
  | cons item rest ih =>
    by_cases same : item = lost
    · rw [List.filter_cons_of_neg (by simp [same])]
      exact .drop same ih
    · rw [List.filter_cons_of_pos (by simp [same])]
      exact .keep item ih

end Drops

section Derivations

variable {rule : Rule} {budget : Nat} {kinds fewer : List Kind} {condition : Condition}

/-- What is derived is derived as well without any of its ORs, from the same budget. -/
theorem derives_drops (derived : Derives rule budget kinds condition)
    (dropped : Drops (· = .or) kinds fewer) : Derives rule budget fewer condition := by
  induction derived generalizing fewer with
  | @value _ kind _ isValue =>
    have same : fewer = [kind] := drops_stays (by cases isValue <;> simp) dropped
    rw [same]
    exact .value isValue
  | @holds _ field kind _ isValue =>
    have same : fewer = [.word field, .colon, kind] :=
      drops_stays (by cases isValue <;> simp) dropped
    rw [same]
    exact .holds isValue
  | @range _ field opening low high closing _ _ _ _ opens isLower isUpper closes =>
    have same : fewer = [.word field, .colon, opening, low, .to, high, closing] :=
      drops_stays (by cases opens <;> cases isLower <;> cases isUpper <;> cases closes <;> simp)
        dropped
    rw [same]
    exact .range opens isLower isUpper closes
  | group _ ih =>
    obtain ⟨rest, rfl, others⟩ := drops_cons (by simp) dropped
    obtain ⟨inside, closing, rfl, within, last⟩ := drops_append others
    rw [drops_stays (by simp) last]
    exact .group (ih within)
  | operand _ ih => exact .operand (ih dropped)
  | not _ ih =>
    obtain ⟨rest, rfl, others⟩ := drops_cons (by simp) dropped
    exact .not (ih others)
  | negation _ ih => exact .negation (ih dropped)
  | and _ _ first others =>
    obtain ⟨before, rest, rfl, inFirst, more⟩ := drops_append dropped
    obtain ⟨behind, rfl, inOthers⟩ := drops_cons (by simp) more
    exact .and (first inFirst) (others inOthers)
  | conjunction _ ih => exact .conjunction (ih dropped)
  | or _ _ first others =>
    obtain ⟨before, rest, rfl, inFirst, more⟩ := drops_append dropped
    -- The OR between the operands is kept, or they stand side by side.
    cases more with
    | keep _ inOthers => exact .or (first inFirst) (others inOthers)
    | drop _ inOthers => exact .beside (first inFirst) (others inOthers)
  | beside _ _ first others =>
    obtain ⟨before, behind, rfl, inFirst, inOthers⟩ := drops_append dropped
    exact .beside (first inFirst) (others inOthers)

end Derivations

section AnyTokens

/-- The tokens in front of the first stop, or all of them. -/
def beforeStop (tokens : List Token) : List Token := tokens.takeWhile (·.kind ≠ .stop)

variable {limit : Nat} {tokens : List Token} {condition : Condition}

theorem beforeStop_ne_stop : ∀ token ∈ beforeStop tokens, token.kind ≠ .stop := by
  intro token member
  have inside := List.all_eq_true.mp (List.all_takeWhile (l := tokens)) token member
  simpa using inside

theorem finish_stop {state : State} {stop other : Token} (ends : state.finish stop = .ok condition) :
    state.finish other = .ok condition := by
  cases awaits : state.awaiting with
  | operator operand | colon word =>
    simp only [State.finish, awaits, State.conclude] at ends ⊢
    split at ends
    · exact ends
    · cases ends
  | _ => simp [State.finish, awaits] at ends

-- A run that comes to a condition walks to the first stop, and may end there.
theorem run_eq_ok_iff {state : State} (last : Nat) :
    state.run limit last tokens = .ok condition ↔
      ∃ next, state.walk limit (beforeStop tokens) = .ok next ∧
        next.finish ⟨.stop, 0⟩ = .ok condition := by
  induction tokens generalizing state last with
  | nil =>
    constructor
    · intro ends
      exact ⟨state, rfl, finish_stop ends⟩
    · rintro ⟨_, same, ends⟩
      cases same
      exact finish_stop ends
  | cons token rest ih =>
    by_cases ends : token.kind = .stop
    · have none : beforeStop (token :: rest) = [] := List.takeWhile_cons_of_neg (by simp [ends])
      rw [none, State.run, if_pos ends]
      constructor
      · intro finished
        exact ⟨state, rfl, finish_stop finished⟩
      · rintro ⟨_, same, finished⟩
        cases same
        exact finish_stop finished
    · have more : beforeStop (token :: rest) = token :: beforeStop rest :=
        List.takeWhile_cons_of_pos (by simp [ends])
      rw [more, State.run, if_neg ends]
      cases taken : state.step limit token with
      | error fault => simp [walk_cons_error taken]
      | ok next =>
        rw [walk_cons_ok taken]
        exact ih token.offset

/-- Tokens are accepted, whether or not a stop is among them, when the grammar derives what stands in
front of the first one. -/
theorem parseTokens_eq_ok_iff_derives :
    parseTokens limit tokens = .ok condition ↔
      Derives .disjunction limit ((beforeStop tokens).map Token.kind) condition := by
  have inside : ∀ token ∈ beforeStop tokens, token.kind ≠ .stop := beforeStop_ne_stop
  have ends : (⟨.stop, 0⟩ : Token).kind = .stop := rfl
  rw [← parseTokens_iff_derives ends inside, parseTokens_eq_ok_iff ends inside]
  cases tokens with
  | nil => simp [parseTokens, beforeStop, walk_nil, State.finish]
  | cons first rest =>
    by_cases ends : first.kind = .stop
    · simp [parseTokens, ends, beforeStop, walk_nil, State.finish]
    · rw [parseTokens, if_neg ends, run_eq_ok_iff]

end AnyTokens

section Conditions

/-- The kinds of tokens but for the ORs. -/
def kindsBesideOr (tokens : List Token) : List Kind := (tokens.map Token.kind).filter (· ≠ .or)

variable {tokens fewer others : List Token} {limit : Nat} {condition another : Condition}

theorem parseTokens_drops (dropped : Drops (·.kind = .or) tokens fewer)
    (accepted : parseTokens limit tokens = .ok condition) :
    parseTokens limit fewer = .ok condition := by
  have inFront : Drops (·.kind = .or) (beforeStop tokens) (beforeStop fewer) :=
    drops_takeWhile (fun token isOr => by simp [isOr]) dropped
  rw [parseTokens_eq_ok_iff_derives] at accepted ⊢
  exact derives_drops accepted (drops_map Token.kind (fun _ isOr => isOr) inFront)

theorem derives_besideOr (accepted : parseTokens limit tokens = .ok condition) :
    Derives .disjunction limit ((kindsBesideOr tokens).takeWhile (· ≠ .stop)) condition := by
  have spelled : (beforeStop tokens).map Token.kind =
      (tokens.map Token.kind).takeWhile (· ≠ .stop) := by
    rw [beforeStop, List.takeWhile_map]
    rfl
  rw [parseTokens_eq_ok_iff_derives, spelled] at accepted
  have inFront : Drops (· = Kind.or) ((tokens.map Token.kind).takeWhile (· ≠ .stop))
      ((kindsBesideOr tokens).takeWhile (· ≠ .stop)) :=
    drops_takeWhile (fun kind isOr => by simp [isOr]) (drops_filter Kind.or _)
  exact derives_drops accepted inFront

/-- OR is optional everywhere. Accepted tokens without any of their ORs are accepted as the same
condition, and accepted queries that differ in their ORs only stand for one condition. -/
theorem or_is_optional :
    (∀ limit tokens fewer condition, Drops (fun token => token.kind = .or) tokens fewer →
      parseTokens limit tokens = .ok condition → parseTokens limit fewer = .ok condition) ∧
    ∀ query other limit otherLimit tokens others condition another,
      tokenize query = .ok tokens → tokenize other = .ok others →
      kindsBesideOr tokens = kindsBesideOr others → parse query limit = .ok condition →
      parse other otherLimit = .ok another → condition = another := by
  constructor
  · intro limit tokens fewer condition dropped accepted
    exact parseTokens_drops dropped accepted
  · intro query other limit otherLimit tokens others condition another read again same first second
    rw [parse_of_tokens read, reported_ok_iff] at first
    rw [parse_of_tokens again, reported_ok_iff] at second
    have one := derives_besideOr first
    rw [same] at one
    exact derives_unique one (derives_besideOr second)

-- The first OR goes and the one in the group, so a NOT follows a word and a field another word.
theorem operands_side_by_side :
    (parseTokens 2 [⟨.word "a", 0⟩, ⟨.or, 2⟩, ⟨.openParen, 5⟩, ⟨.not, 6⟩, ⟨.word "b", 10⟩, ⟨.or, 12⟩,
          ⟨.word "f", 15⟩, ⟨.colon, 16⟩, ⟨.star, 17⟩, ⟨.closeParen, 18⟩, ⟨.or, 20⟩, ⟨.word "c", 23⟩,
          ⟨.stop, 24⟩] =
        .ok (.or (.term "a") (.or (.or (.not (.term "b")) (.holds "f" "*")) (.term "c"))) ∧
      parseTokens 2 [⟨.word "a", 0⟩, ⟨.openParen, 5⟩, ⟨.not, 6⟩, ⟨.word "b", 10⟩, ⟨.word "f", 15⟩,
          ⟨.colon, 16⟩, ⟨.star, 17⟩, ⟨.closeParen, 18⟩, ⟨.or, 20⟩, ⟨.word "c", 23⟩, ⟨.stop, 24⟩] =
        .ok (.or (.term "a") (.or (.or (.not (.term "b")) (.holds "f" "*")) (.term "c")))) ∧
    ∃ condition, parse "a or b c" 0 = .ok condition ∧ parse "a b OR c" 5 = .ok condition := by
  have accepted : parseTokens 2 [⟨.word "a", 0⟩, ⟨.or, 2⟩, ⟨.openParen, 5⟩, ⟨.not, 6⟩,
      ⟨.word "b", 10⟩, ⟨.or, 12⟩, ⟨.word "f", 15⟩, ⟨.colon, 16⟩, ⟨.star, 17⟩, ⟨.closeParen, 18⟩,
      ⟨.or, 20⟩, ⟨.word "c", 23⟩, ⟨.stop, 24⟩] =
        .ok (.or (.term "a") (.or (.or (.not (.term "b")) (.holds "f" "*")) (.term "c"))) := rfl
  have one : tokenize "a or b c" = .ok [⟨.word "a", 0⟩, ⟨.or, 2⟩, ⟨.word "b", 5⟩, ⟨.word "c", 7⟩,
      ⟨.stop, 8⟩] := tokenize_of_found (by decide +kernel)
  have two : tokenize "a b OR c" = .ok [⟨.word "a", 0⟩, ⟨.word "b", 2⟩, ⟨.or, 4⟩, ⟨.word "c", 7⟩,
      ⟨.stop, 8⟩] := tokenize_of_found (by decide +kernel)
  have first : parse "a or b c" 0 = .ok (.or (.term "a") (.or (.term "b") (.term "c"))) := by
    rw [parse_of_tokens one]
    rfl
  have second : parse "a b OR c" 5 = .ok (.or (.term "a") (.or (.term "b") (.term "c"))) := by
    rw [parse_of_tokens two]
    rfl
  have same := or_is_optional.2 _ _ _ _ _ _ _ _ one two (by decide) first second
  refine ⟨⟨accepted, or_is_optional.1 _ _ _ _ ?_ accepted⟩, _, first, by rw [same]; exact second⟩
  exact .keep _ (.drop rfl (.keep _ (.keep _ (.keep _ (.drop rfl (.keep _ (.keep _ (.keep _ (.keep _
    (.keep _ (.keep _ (.keep _ .nil))))))))))))

end Conditions

end BoolQuery.Parser
