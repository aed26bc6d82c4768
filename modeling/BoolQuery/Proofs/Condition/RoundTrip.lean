import BoolQuery.Proofs.Condition.Economy
import BoolQuery.Proofs.Parser.Acceptance

/-! Written conditions read back. The one thing that cannot be written is a range without a field:
its bracket would stand where an operand begins, and no derivation has one there. -/
namespace BoolQuery

namespace Grammar
open Token

section Ranges

def opensRange : Kind → Bool
  | .openBracket | .openBrace => true
  | _ => false

/-- Every bracket that opens a range stands directly behind a colon. -/
def RangesBehindColons (kinds : List Kind) : Prop :=
  ∀ before opening behind, kinds = before ++ opening :: behind → opensRange opening →
    before.getLast? = some .colon

variable {first second : List Kind}

theorem behind_colons_single {kind : Kind} (other : opensRange kind = false) :
    RangesBehindColons [kind] := by
  intro before opening behind split opens
  have member : opening ∈ [kind] := by simp [split]
  rw [List.mem_singleton.mp member, other] at opens
  cases opens

theorem behind_colons_append (inFirst : RangesBehindColons first)
    (inSecond : RangesBehindColons second) : RangesBehindColons (first ++ second) := by
  intro before opening behind split opens
  -- The bracket stands in the second part or in the first.
  rcases List.append_eq_append_iff.mp split with ⟨middle, atFront, atRest⟩ | ⟨middle, atFront, atRest⟩
  · have colon := inSecond middle opening behind atRest opens
    rw [atFront, List.getLast?_append, colon]
    rfl
  · cases middle with
    | nil =>
      have colon := inSecond [] opening behind (by simpa using atRest.symm) opens
      exact absurd colon (by simp)
    | cons kind middle =>
      obtain ⟨rfl, -⟩ : opening = kind ∧ behind = middle ++ second := by simpa using atRest
      exact inFirst before opening middle atFront opens

theorem behind_colons_front (whole : RangesBehindColons (first ++ second)) :
    RangesBehindColons first := by
  intro before opening behind split opens
  exact whole before opening (behind ++ second) (by simp [split]) opens

-- What stands behind a token that is no colon stands for itself.
theorem behind_colons_rest {kind : Kind} (other : kind ≠ .colon)
    (whole : RangesBehindColons (first ++ kind :: second)) : RangesBehindColons second := by
  intro before opening behind split opens
  have colon := whole (first ++ kind :: before) opening behind (by simp [split]) opens
  rw [List.getLast?_append, List.getLast?_cons] at colon
  cases last : before.getLast? with
  | none =>
    rw [last] at colon
    exact absurd (by simpa using colon) other
  | some kind =>
    rw [last] at colon
    simpa using colon

theorem behind_colons_tail {kind : Kind} (other : kind ≠ .colon)
    (whole : RangesBehindColons (kind :: second)) : RangesBehindColons second := by
  rw [← List.nil_append (kind :: second)] at whole
  exact behind_colons_rest other whole

theorem behind_colons_opening (opening : Kind) : RangesBehindColons [.colon, opening] := by
  intro before bracket behind split opens
  match before with
  | [] =>
    obtain ⟨rfl, -⟩ : Kind.colon = bracket ∧ [opening] = behind := by simpa using split
    cases opens
  | [kind] =>
    obtain ⟨rfl, -⟩ : Kind.colon = kind ∧ _ := by simpa using split
    rfl
  | _ :: _ :: _ => simp at split

/-- In whatever is derived, ranges have a field in front of them. -/
theorem derives_behind_colons {place : Rule} {budget : Nat} {kinds : List Kind}
    {condition : Condition} (derived : Derives place budget kinds condition) :
    RangesBehindColons kinds := by
  induction derived with
  | value isValue => exact behind_colons_single (by cases isValue <;> rfl)
  | @holds _ _ kind _ isValue =>
    have value : RangesBehindColons [kind] := behind_colons_single (by cases isValue <;> rfl)
    exact behind_colons_append (behind_colons_single rfl)
      (behind_colons_append (behind_colons_single rfl) value)
  | @range _ _ opening low high closing _ _ _ _ opens isLower isUpper closes =>
    have lower : RangesBehindColons [low] := behind_colons_single (by cases isLower <;> rfl)
    have between : RangesBehindColons [.to] := behind_colons_single rfl
    have upper : RangesBehindColons [high] := behind_colons_single (by cases isUpper <;> rfl)
    have closes : RangesBehindColons [closing] := behind_colons_single (by cases closes <;> rfl)
    have bounds := behind_colons_append lower
      (behind_colons_append between (behind_colons_append upper closes))
    exact behind_colons_append (behind_colons_single rfl)
      (behind_colons_append (behind_colons_opening _) bounds)
  | group inside ih =>
    exact behind_colons_append (behind_colons_single rfl)
      (behind_colons_append ih (behind_colons_single rfl))
  | not inside ih => exact behind_colons_append (behind_colons_single rfl) ih
  | operand _ ih | negation _ ih | conjunction _ ih => exact ih
  | and _ _ before behind | or _ _ before behind =>
    exact behind_colons_append before (behind_colons_append (behind_colons_single rfl) behind)
  | beside _ _ before behind => exact behind_colons_append before behind

end Ranges

end Grammar

namespace Condition
open Token Grammar

theorem behind_colons_group {group : Bool} {kinds : List Kind}
    (whole : RangesBehindColons (groupKinds group kinds)) : RangesBehindColons kinds := by
  cases group with
  | false => exact whole
  | true =>
    exact behind_colons_front (behind_colons_tail (by simp) whole)

theorem fields_of_behind_colons {condition : Condition}
    (written : RangesBehindColons condition.kinds) : condition.rangesHaveFields := by
  induction condition with
  | holds field value => rfl
  | range field lower upper withLower withUpper =>
    by_cases none : field = ""
    · subst none
      have colon := written [] (openingKind withLower) _ rfl (by cases withLower <;> rfl)
      exact absurd colon (by simp)
    · simpa [rangesHaveFields] using none
  | or left right first second =>
    have before := first (behind_colons_group (behind_colons_front written))
    have behind := second (behind_colons_rest (by simp) written)
    simp [rangesHaveFields, before, behind]
  | and left right first second =>
    have before := first (behind_colons_group (behind_colons_front written))
    have behind := second (behind_colons_group (behind_colons_rest (by simp) written))
    simp [rangesHaveFields, before, behind]
  | not inner ih =>
    exact ih (behind_colons_group (behind_colons_tail (by simp) written))

-- A written condition is accepted as nothing but itself, when the limit admits its nesting and
-- its ranges have fields.
theorem accepted_written {condition other : Condition} {limit : Nat}
    (accepted : parse condition.toQuery limit = .ok other) :
    other = condition ∧ condition.rangesHaveFields ∧ condition.nesting ≤ limit := by
  obtain ⟨body, stop, read, ends, kinds⟩ := tokenize_query condition
  obtain ⟨same, last, again, -, derived⟩ := Parser.parse_iff_derives.mp accepted
  obtain ⟨rfl, -⟩ : body = same ∧ stop = last := by
    simpa [read] using again
  rw [kinds] at derived
  -- The kinds are those of a written condition, so what they derive is that condition.
  have fields := fields_of_behind_colons (derives_behind_colons derived)
  obtain rfl := Parser.derives_unique derived (written_derives fields (Nat.le_refl _))
  have fits := (derives_needs derived).1
  rw [no_group_at_disjunction] at fits
  exact ⟨rfl, fields, fits⟩

theorem parse_written {condition : Condition} {limit : Nat} (fields : condition.rangesHaveFields)
    (fits : condition.nesting ≤ limit) : parse condition.toQuery limit = .ok condition := by
  obtain ⟨body, stop, read, ends, kinds⟩ := tokenize_query condition
  have derived := written_derives fields fits
  rw [← kinds] at derived
  exact Parser.parse_iff_derives.mpr ⟨body, stop, read, ends, derived⟩

theorem refused_grammatical {condition : Condition} {limit : Nat} {error : QueryError}
    (refused : parse condition.toQuery limit = .error error) :
    ∃ reason position, error = .grammatical reason position := by
  obtain ⟨body, stop, read, -, -⟩ := tokenize_query condition
  obtain ⟨fault, -, rfl⟩ := parse_error_tokens read refused
  exact ⟨fault.reason, fault.position?, rfl⟩

/-- A written condition reads back as itself exactly when its ranges have fields and the limit admits
its nesting. Otherwise it is refused for its grammar: it always has tokens, and never those of
another condition. -/
theorem reads_back_exactly (condition : Condition) (limit : Nat) :
    (parse condition.toQuery limit = .ok condition ↔
      condition.rangesHaveFields ∧ condition.nesting ≤ limit) ∧
    (parse condition.toQuery limit = .ok condition ∨
      ∃ reason position, parse condition.toQuery limit = .error (.grammatical reason position)) := by
  constructor
  · constructor
    · intro accepted
      exact (accepted_written accepted).2
    · rintro ⟨fields, fits⟩
      exact parse_written fields fits
  · cases outcome : parse condition.toQuery limit with
    | ok other =>
      obtain ⟨rfl, -, -⟩ := accepted_written outcome
      exact Or.inl rfl
    | error error =>
      obtain ⟨reason, position, rfl⟩ := refused_grammatical outcome
      exact Or.inr ⟨reason, position, rfl⟩

/-- A condition derived from words that are not empty has a field for each of its ranges. -/
theorem fields_of_words {place : Rule} {budget : Nat} {spelling : List Kind} {condition : Condition}
    (derived : Derives place budget spelling condition)
    (words : ∀ word, .word word ∈ spelling → word ≠ "") : condition.rangesHaveFields := by
  induction derived with
  | value isValue => rfl
  | holds isValue => rfl
  | @range budget field =>
    have some : field ≠ "" := words field (by simp)
    simpa [rangesHaveFields] using some
  | group inside ih => exact ih fun word member => words word (by simp [member])
  | not inside ih => exact ih fun word member => words word (by simp [member])
  | operand _ ih | negation _ ih | conjunction _ ih => exact ih words
  | and _ _ before behind | or _ _ before behind | beside _ _ before behind =>
    have left := before fun word member => words word (by simp [member])
    have right := behind fun word member => words word (by simp [member])
    simp [rangesHaveFields, left, right]

/-- An accepted condition, written, is accepted under the same limit as itself. It has no more opening
parentheses than the query it came from; a query without them stands for a tree in which no
operand needs a group. -/
theorem canonical_needs_no_more {query : String} {limit : Nat} {condition : Condition}
    (accepted : parse query limit = .ok condition) :
    parse condition.toQuery limit = .ok condition ∧
    ∃ source canonical, tokenize query = .ok source ∧
      tokenize condition.toQuery = .ok canonical ∧
      openings (canonical.map Token.kind) ≤ openings (source.map Token.kind) ∧
      (openings (source.map Token.kind) = 0 → condition.ungrouped) := by
  obtain ⟨source, stop, read, ends, derived⟩ := Parser.parse_iff_derives.mp accepted
  obtain ⟨canonical, last, again, closes, kinds⟩ := tokenize_query condition
  obtain ⟨fits, parentheses⟩ := derives_needs derived
  rw [no_group_at_disjunction] at fits parentheses
  -- Words of a text are not empty, and neither are fields that come from them.
  have fields : condition.rangesHaveFields := by
    refine fields_of_words derived fun word member => ?_
    have segmented := tokenize_eq_ok_iff.mp read
    exact segmented_word_ne_empty segmented (by simp [member])
  have fromSource : openings ((source ++ [stop]).map Token.kind) =
      openings (source.map Token.kind) := by
    rw [List.map_append, openings_append, List.map_singleton, ends]
    rfl
  have fromCanonical : openings ((canonical ++ [last]).map Token.kind) = condition.groups := by
    rw [List.map_append, openings_append, List.map_singleton, closes, kinds, openings_kinds]
    rfl
  refine ⟨parse_written fields fits, _, _, read, again, ?_, ?_⟩
  · rw [fromSource, fromCanonical]
    exact parentheses
  · intro none
    rw [fromSource] at none
    exact (groups_zero_iff condition).mp (Nat.le_zero.mp (none ▸ parentheses))

theorem redundant_groups_are_dropped :
    parse "((a) OR (b)) c" 2 = .ok (.or (.or (.term "a") (.term "b")) (.term "c")) ∧
      parse (Condition.or (.or (.term "a") (.term "b")) (.term "c")).toQuery 2 =
        .ok (.or (.or (.term "a") (.term "b")) (.term "c")) ∧
      ∃ source canonical, tokenize "((a) OR (b)) c" = .ok source ∧
        tokenize (Condition.or (.or (.term "a") (.term "b")) (.term "c")).toQuery = .ok canonical ∧
        openings (canonical.map Token.kind) ≤ openings (source.map Token.kind) := by
  have read : tokenize "((a) OR (b)) c" = .ok [⟨.openParen, 0⟩, ⟨.openParen, 1⟩, ⟨.word "a", 2⟩,
      ⟨.closeParen, 3⟩, ⟨.or, 5⟩, ⟨.openParen, 8⟩, ⟨.word "b", 9⟩, ⟨.closeParen, 10⟩,
      ⟨.closeParen, 11⟩, ⟨.word "c", 13⟩, ⟨.stop, 14⟩] := tokenize_of_found (by decide +kernel)
  have accepted : parse "((a) OR (b)) c" 2 =
      .ok (.or (.or (.term "a") (.term "b")) (.term "c")) := by
    rw [parse_of_tokens read]
    rfl
  obtain ⟨again, source, canonical, found, written, fewer, -⟩ := canonical_needs_no_more accepted
  exact ⟨accepted, again, source, canonical, found, written, fewer⟩

end Condition
end BoolQuery
