import BoolQuery.Condition.Leaves
import BoolQuery.Proofs.Parser.Acceptance
import Mathlib.Data.List.Forall2

/-! Nothing in an accepted query is lost, doubled or moved. The texts of the tokens are the texts of
the leaves in the same order, and each operator is a node of its own. -/
namespace BoolQuery.Parser
open Token Grammar Condition

section Accounts

/-- The token is part of what a leaf says. -/
def isText : Kind → Bool
  | .word _ | .phrase _ | .star => true
  | _ => false

/-- A token says a part. The star is a value of that name, or it leaves a bound open. -/
inductive Says : Kind → Part → Prop
  | field (name : String) : Says (.word name) (.field name)
  | value {kind : Kind} {value : String} (isValue : IsValue kind value) : Says kind (.value value)
  | bound {kind : Kind} {bound : Option String} (isBound : IsBound kind bound) :
    Says kind (.bound bound)

/-- What of some tokens is found again in their condition: each text in its place, and each operator
but OR once. Of the ORs some may have been left out. -/
structure Conserves (kinds : List Kind) (condition : Condition) : Prop where
  texts : List.Forall₂ Says (kinds.filter isText) condition.parts
  negations : condition.nodes.countP isNot = kinds.count .not
  conjunctions : condition.nodes.countP isAnd = kinds.count .and
  ranges : condition.leaves.countP isRange = kinds.count .to
  fields : condition.leaves.countP namesField = kinds.count .colon
  alternatives : kinds.count .or ≤ condition.nodes.countP isOr
  operands : condition.leaves.length =
    condition.nodes.countP isOr + condition.nodes.countP isAnd + 1

end Accounts

section Leaves

def isCounted : Kind → Bool
  | .not | .and | .or | .to | .colon => true
  | _ => false

theorem count_marks {kinds marks : List Kind} (left : kinds.filter isCounted = marks) {counted : Kind}
    (counts : isCounted counted) : kinds.count counted = marks.count counted := by
  rw [← left, List.count_filter counts]

theorem counted_field (name : String) :
    isCounted (.word name) = false ∧ isCounted .colon ∧ isCounted .to := ⟨rfl, rfl, rfl⟩

theorem text_field (name : String) :
    isText (.word name) ∧ isText .colon = false ∧ isText .to = false := ⟨rfl, rfl, rfl⟩

theorem text_value {kind : Kind} {value : String} (isValue : IsValue kind value) :
    isText kind ∧ isCounted kind = false := by
  cases isValue <;> exact ⟨rfl, rfl⟩

theorem text_bound {kind : Kind} {bound : Option String} (isBound : IsBound kind bound) :
    isText kind ∧ isCounted kind = false := by
  cases isBound <;> exact ⟨rfl, rfl⟩

theorem silent_opens {kind : Kind} {inside : Bool} (opens : Opens kind inside) :
    isText kind = false ∧ isCounted kind = false := by
  cases opens <;> exact ⟨rfl, rfl⟩

theorem silent_closes {kind : Kind} {inside : Bool} (closes : Closes kind inside) :
    isText kind = false ∧ isCounted kind = false := by
  cases closes <;> exact ⟨rfl, rfl⟩

theorem conserves_value {kind : Kind} {value : String} (isValue : IsValue kind value) :
    Conserves [kind] (.term value) := by
  obtain ⟨text, uncounted⟩ := text_value isValue
  have marks : [kind].filter isCounted = [] := by simp [uncounted]
  constructor
  case texts =>
    rw [List.filter_cons_of_pos text]
    exact .cons (.value isValue) .nil
  case operands => rfl
  all_goals
    rw [count_marks marks rfl]
    simp [nodes, leaves, term, isNot, isAnd, isRange, namesField, field?]

theorem conserves_holds {field : String} {kind : Kind} {value : String} (named : field ≠ "")
    (isValue : IsValue kind value) :
    Conserves [.word field, .colon, kind] (.holds field value) := by
  obtain ⟨text, uncounted⟩ := text_value isValue
  have marks : [.word field, .colon, kind].filter isCounted = [.colon] := by
    simp [counted_field field, uncounted]
  have texts : [.word field, .colon, kind].filter isText = [.word field, kind] := by
    simp [text_field field, text]
  constructor
  case texts =>
    have said : parts (.holds field value) = [.field field, .value value] := by
      simp [parts, leaves, leafParts, field?, named]
    rw [texts, said]
    exact .cons (.field field) (.cons (.value isValue) .nil)
  case operands => rfl
  all_goals
    rw [count_marks marks rfl]
    simp [nodes, leaves, isNot, isAnd, isRange, namesField, field?, named]

theorem conserves_range {field : String} {opening low high closing : Kind}
    {lower upper : Option String} {withLower withUpper : Bool} (named : field ≠ "")
    (opens : Opens opening withLower) (isLower : IsBound low lower) (isUpper : IsBound high upper)
    (closes : Closes closing withUpper) :
    Conserves [.word field, .colon, opening, low, .to, high, closing]
      (.range field lower upper withLower withUpper) := by
  have silent := silent_opens opens
  have first := text_bound isLower
  have second := text_bound isUpper
  have silentBehind := silent_closes closes
  have marks : [.word field, .colon, opening, low, .to, high, closing].filter isCounted =
      [.colon, .to] := by
    simp [counted_field field, silent, first, second, silentBehind]
  have texts : [.word field, .colon, opening, low, .to, high, closing].filter isText =
      [.word field, low, high] := by
    simp [text_field field, silent, first, second, silentBehind]
  constructor
  case texts =>
    have said : parts (.range field lower upper withLower withUpper) =
        [.field field, .bound lower, .bound upper] := by
      simp [parts, leaves, leafParts, field?, named]
    rw [texts, said]
    exact .cons (.field field) (.cons (.bound isLower) (.cons (.bound isUpper) .nil))
  case operands => rfl
  all_goals
    rw [count_marks marks rfl]
    simp [nodes, leaves, isNot, isAnd, isRange, namesField, field?, named]

end Leaves

section Rules

variable {rule : Rule} {budget : Nat} {kinds before behind : List Kind}
  {condition inner left right : Condition}

theorem conserves_not (inside : Conserves kinds inner) : Conserves (.not :: kinds) (.not inner) where
  texts := by simpa [parts, leaves, isText] using inside.texts
  negations := by simp [nodes, List.countP_cons, isNot, inside.negations]
  conjunctions := by simp [nodes, isAnd, inside.conjunctions]
  ranges := by simp [leaves, inside.ranges]
  fields := by simp [leaves, inside.fields]
  alternatives := by simpa [nodes, List.countP_cons, isOr] using inside.alternatives
  operands := by simpa [nodes, leaves, List.countP_cons, isOr, isAnd] using inside.operands

theorem conserves_group (inside : Conserves kinds inner) :
    Conserves (.openParen :: (kinds ++ [.closeParen])) inner where
  texts := by simpa [isText] using inside.texts
  negations := by simp [inside.negations]
  conjunctions := by simp [inside.conjunctions]
  ranges := by simp [inside.ranges]
  fields := by simp [inside.fields]
  alternatives := by simpa using inside.alternatives
  operands := inside.operands

theorem conserves_and (first : Conserves before left) (others : Conserves behind right) :
    Conserves (before ++ .and :: behind) (.and left right) where
  texts := by simpa [parts, leaves, isText] using List.rel_append first.texts others.texts
  negations := by simp [nodes, isNot, first.negations, others.negations]
  conjunctions := by
    simp [nodes, List.countP_cons, isAnd, first.conjunctions, others.conjunctions]
    omega
  ranges := by simp [leaves, first.ranges, others.ranges]
  fields := by simp [leaves, first.fields, others.fields]
  alternatives := by
    have fewer := Nat.add_le_add first.alternatives others.alternatives
    simpa [nodes, List.countP_cons, isOr] using fewer
  operands := by
    simp [nodes, leaves, List.countP_cons, isOr, isAnd, first.operands, others.operands]
    omega

/-- Operands side by side are alternatives, with an OR between them or without. -/
theorem conserves_or (between : List Kind) (separates : between = [.or] ∨ between = [])
    (first : Conserves before left) (others : Conserves behind right) :
    Conserves (before ++ (between ++ behind)) (.or left right) := by
  have noText : between.filter isText = [] := by rcases separates with rfl | rfl <;> rfl
  have other (counted : Kind) (notOr : counted ≠ .or) : between.count counted = 0 := by
    rcases separates with rfl | rfl
    · exact List.count_eq_zero_of_not_mem (by simp [notOr])
    · rfl
  have atMost : between.count .or ≤ 1 := by
    rcases separates with rfl | rfl
    · exact Nat.le_refl 1
    · exact Nat.zero_le 1
  constructor
  case texts => simpa [parts, leaves, noText] using List.rel_append first.texts others.texts
  case negations => simp [nodes, isNot, other, first.negations, others.negations]
  case conjunctions => simp [nodes, isAnd, other, first.conjunctions, others.conjunctions]
  case ranges => simp [leaves, other, first.ranges, others.ranges]
  case fields => simp [leaves, other, first.fields, others.fields]
  case alternatives =>
    have fewer := Nat.add_le_add first.alternatives others.alternatives
    simp only [List.count_append, nodes, List.countP_cons, List.countP_append, isOr, if_true]
    omega
  case operands =>
    simp [nodes, leaves, List.countP_cons, isOr, isAnd, first.operands, others.operands]
    omega

/-- Whatever is derived has the tokens in it, each in its place, as long as no field is an empty
word. -/
theorem derives_conserves (derived : Derives rule budget kinds condition)
    (named : ∀ name, .word name ∈ kinds → name ≠ "") : Conserves kinds condition := by
  induction derived with
  | value isValue => exact conserves_value isValue
  | holds isValue => exact conserves_holds (named _ (by simp)) isValue
  | range opens isLower isUpper closes =>
    exact conserves_range (named _ (by simp)) opens isLower isUpper closes
  | group _ ih =>
    apply conserves_group
    exact ih fun name member => named name (by simp [member])
  | operand _ ih | negation _ ih | conjunction _ ih => exact ih named
  | not _ ih =>
    apply conserves_not
    exact ih fun name member => named name (by simp [member])
  | and _ _ first others =>
    apply conserves_and
    · exact first fun name member => named name (by simp [member])
    · exact others fun name member => named name (by simp [member])
  | or _ _ first others =>
    apply conserves_or [.or] (Or.inl rfl)
    · exact first fun name member => named name (by simp [member])
    · exact others fun name member => named name (by simp [member])
  | beside _ _ first others =>
    apply conserves_or [] (Or.inr rfl)
    · exact first fun name member => named name (by simp [member])
    · exact others fun name member => named name (by simp [member])

end Rules

section Queries

theorem conserves_stop {body : List Kind} {condition : Condition} (inside : Conserves body condition) :
    Conserves (body ++ [.stop]) condition where
  texts := by simpa [isText] using inside.texts
  negations := by simp [inside.negations]
  conjunctions := by simp [inside.conjunctions]
  ranges := by simp [inside.ranges]
  fields := by simp [inside.fields]
  alternatives := by simpa using inside.alternatives
  operands := inside.operands

/-- An accepted query and its condition have the same texts in the same order, and the same
operators. -/
theorem accepted_query_conserved {query : String} {limit : Nat} {tokens : List Token}
    {condition : Condition} (read : tokenize query = .ok tokens)
    (accepted : parse query limit = .ok condition) :
    Conserves (tokens.map Token.kind) condition := by
  obtain ⟨body, stop, again, ends, derived⟩ := parse_iff_derives.mp accepted
  obtain rfl : tokens = body ++ [stop] := by simpa [read] using again
  -- No word of a text is empty, so each field that is read is one that the leaf names.
  have named (name : String) (member : Kind.word name ∈ body.map Token.kind) : name ≠ "" := by
    apply segmented_word_ne_empty (tokenize_eq_ok_iff.mp read)
    rw [List.map_append]
    exact List.mem_append_left _ member
  have spelled : (body ++ [stop]).map Token.kind = body.map Token.kind ++ [.stop] := by
    simp [ends]
  rw [spelled]
  exact conserves_stop (derives_conserves derived named)

-- The star as a value, as an open bound and in quotes, with one OR written and one left out.
theorem stars_conserved :
    tokenize "* AND f:[* TO \"*\"\x7d NOT g:b OR c" = .ok [⟨.star, 0⟩, ⟨.and, 2⟩, ⟨.word "f", 6⟩,
        ⟨.colon, 7⟩, ⟨.openBracket, 8⟩, ⟨.star, 9⟩, ⟨.to, 11⟩, ⟨.phrase "*", 14⟩, ⟨.closeBrace, 17⟩,
        ⟨.not, 19⟩, ⟨.word "g", 23⟩, ⟨.colon, 24⟩, ⟨.word "b", 25⟩, ⟨.or, 27⟩, ⟨.word "c", 30⟩,
        ⟨.stop, 31⟩] ∧
      parse "* AND f:[* TO \"*\"\x7d NOT g:b OR c" 1 =
        .ok (.or (.and (.term "*") (.range "f" none (some "*") true false))
          (.or (.not (.holds "g" "b")) (.term "c"))) ∧
      Conserves [.star, .and, .word "f", .colon, .openBracket, .star, .to, .phrase "*", .closeBrace,
          .not, .word "g", .colon, .word "b", .or, .word "c", .stop]
        (.or (.and (.term "*") (.range "f" none (some "*") true false))
          (.or (.not (.holds "g" "b")) (.term "c"))) := by
  have read : tokenize "* AND f:[* TO \"*\"\x7d NOT g:b OR c" = .ok [⟨.star, 0⟩, ⟨.and, 2⟩,
      ⟨.word "f", 6⟩, ⟨.colon, 7⟩, ⟨.openBracket, 8⟩, ⟨.star, 9⟩, ⟨.to, 11⟩, ⟨.phrase "*", 14⟩,
      ⟨.closeBrace, 17⟩, ⟨.not, 19⟩, ⟨.word "g", 23⟩, ⟨.colon, 24⟩, ⟨.word "b", 25⟩, ⟨.or, 27⟩,
      ⟨.word "c", 30⟩, ⟨.stop, 31⟩] := tokenize_of_found (by decide +kernel)
  have accepted : parse "* AND f:[* TO \"*\"\x7d NOT g:b OR c" 1 =
      .ok (.or (.and (.term "*") (.range "f" none (some "*") true false))
        (.or (.not (.holds "g" "b")) (.term "c"))) := by
    rw [parse_of_tokens read]
    rfl
  exact ⟨read, accepted, accepted_query_conserved read accepted⟩

end Queries

end BoolQuery.Parser
