import BoolQuery.Condition.Leaves
import BoolQuery.Proofs.Parser.Acceptance

/-! The fields of a condition: each name once, in the order in which the leaves have them. In an
accepted query that is the order of the words in front of colons. -/
namespace BoolQuery.Condition
open Token Grammar

section Walk

theorem fieldNames_eq_leaves (condition : Condition) :
    condition.fieldNames = condition.leaves.filterMap field? := by
  induction condition with
  | holds field value => cases named : field? (.holds field value) <;> simp [fieldNames, leaves, named]
  | range field lower upper withLower withUpper =>
    cases named : field? (.range field lower upper withLower withUpper) <;>
      simp [fieldNames, leaves, named]
  | and left right first second | or left right first second =>
    rw [fieldNames, leaves, first, second, List.filterMap_append]
  | not inner ih => rw [fieldNames, leaves, ih]

theorem fieldNames_node (node : Condition) :
    node.fieldNames = node.field?.toList ++ node.children.flatMap fieldNames := by
  cases node <;> simp [fieldNames, field?, children]

-- The names found are those seen so far without repetitions, and stay so with one more.
theorem noteField_eraseDups {found seen : List String} (known : found.reverse = seen.eraseDups)
    (field : Option String) :
    (noteField found field).reverse = (seen ++ field.toList).eraseDups := by
  cases field with
  | none => simpa [noteField] using known
  | some name =>
    have member : name ∈ found ↔ name ∈ seen := by
      rw [← List.mem_reverse, known, List.mem_eraseDups]
    rw [noteField, Option.toList_some, List.eraseDups_append, ← known]
    by_cases old : name ∈ seen
    · simp [member, old, List.removeAll]
    · simp [member, old, List.removeAll, List.eraseDups_cons]

/-- The walk notes the names of all listed trees, one tree after the other. -/
theorem collectFields_eraseDups {found seen : List String} (known : found.reverse = seen.eraseDups)
    (pending : List Condition) :
    (collectFields found pending).reverse =
      (seen ++ pending.flatMap fieldNames).eraseDups := by
  induction found, pending using collectFields.induct generalizing seen with
  | case1 found => simpa [collectFields] using known
  | case2 found node rest ih =>
    rw [collectFields, ih (noteField_eraseDups known node.field?), List.flatMap_cons,
      fieldNames_node, List.flatMap_append]
    simp only [List.append_assoc]

theorem fields_eraseDups (condition : Condition) :
    condition.fields = (condition.leaves.filterMap field?).eraseDups := by
  have unseen : ([] : List String).reverse = ([] : List String).eraseDups := rfl
  have walked := collectFields_eraseDups unseen [condition]
  simpa [fields, fieldNames_eq_leaves] using walked

end Walk

section Words

/-- The words directly in front of a colon, from left to right. -/
def wordsBeforeColon : List Kind → List String
  | .word name :: .colon :: behind => name :: wordsBeforeColon behind
  | _ :: behind => wordsBeforeColon behind
  | [] => []

/-- Wherever some tokens stand, the words in front of colons among them are these names. -/
structure Names (kinds : List Kind) (names : List String) : Prop where
  /-- A word in front of the tokens is in front of no colon. -/
  apart : ∀ behind, (kinds ++ behind).head? ≠ some .colon
  reads : ∀ behind, behind.head? ≠ some .colon →
    wordsBeforeColon (kinds ++ behind) = names ++ wordsBeforeColon behind

variable {kinds first second : List Kind} {names others : List String}

theorem wordsBeforeColon_skip (kind : Kind) {behind : List Kind}
    (alone : behind.head? ≠ some .colon) :
    wordsBeforeColon (kind :: behind) = wordsBeforeColon behind := by
  rw [wordsBeforeColon]
  rintro name rest - rfl
  exact alone rfl

theorem mem_wordsBeforeColon {name : String} (listed : name ∈ wordsBeforeColon kinds) :
    .word name ∈ kinds := by
  induction kinds using wordsBeforeColon.induct with
  | case1 word behind ih =>
    rcases List.mem_cons.mp listed with rfl | later
    · exact List.mem_cons_self
    · exact List.mem_cons_of_mem _ (List.mem_cons_of_mem _ (ih later))
  | case2 kind behind other ih =>
    rw [wordsBeforeColon.eq_2 _ _ other] at listed
    exact List.mem_cons_of_mem _ (ih listed)
  | case3 => cases listed

theorem names_single {kind : Kind} (other : kind ≠ .colon) : Names [kind] [] where
  apart := fun behind => by simpa using other
  reads := fun behind alone => wordsBeforeColon_skip kind alone

theorem names_field (name : String) : Names [.word name, .colon] [name] where
  apart := fun behind => by simp
  reads := fun behind _ => rfl

theorem names_append (front : Names first names) (back : Names second others) :
    Names (first ++ second) (names ++ others) where
  apart := fun behind => by
    rw [List.append_assoc]
    exact front.apart _
  reads := fun behind alone => by
    rw [List.append_assoc, front.reads _ (back.apart behind), back.reads behind alone,
      List.append_assoc]

theorem names_behind {kind : Kind} (other : kind ≠ .colon) (back : Names second others) :
    Names (kind :: second) others :=
  names_append (names_single other) back

theorem names_before {kind : Kind} (front : Names first names) (other : kind ≠ .colon) :
    Names (first ++ [kind]) names := by
  simpa using names_append front (names_single other)

end Words

section Derivations

theorem value_ne_colon {kind : Kind} {value : String} (isValue : IsValue kind value) :
    kind ≠ .colon := by
  cases isValue <;> simp

theorem bound_ne_colon {kind : Kind} {bound : Option String} (isBound : IsBound kind bound) :
    kind ≠ .colon := by
  cases isBound <;> simp

theorem opens_ne_colon {kind : Kind} {inside : Bool} (opens : Opens kind inside) :
    kind ≠ .colon := by
  cases opens <;> simp

theorem closes_ne_colon {kind : Kind} {inside : Bool} (closes : Closes kind inside) :
    kind ≠ .colon := by
  cases closes <;> simp

/-- What derives a condition has the names of its leaves in front of its colons. -/
theorem derives_names {rule : Rule} {budget : Nat} {kinds : List Kind} {condition : Condition}
    (derived : Derives rule budget kinds condition)
    (named : ∀ name, .word name ∈ kinds → name ≠ "") : Names kinds condition.fieldNames := by
  induction derived with
  | value isValue => exact names_single (value_ne_colon isValue)
  | @holds budget field kind value isValue =>
    have names : fieldNames (.holds field value) = [field] := by
      simp [fieldNames, field?, named field (by simp)]
    rw [names]
    exact names_before (names_field field) (value_ne_colon isValue)
  | @range budget field opening low high closing lower upper withLower withUpper opens isLower
      isUpper closes =>
    have names : fieldNames (.range field lower upper withLower withUpper) = [field] := by
      simp [fieldNames, field?, named field (by simp)]
    rw [names]
    have bounds : Names [low, .to, high, closing] [] :=
      names_behind (bound_ne_colon isLower) (names_behind (by simp)
        (names_behind (bound_ne_colon isUpper) (names_single (closes_ne_colon closes))))
    exact names_append (names_field field) (names_behind (opens_ne_colon opens) bounds)
  | group _ ih =>
    have inside := ih fun name member => named name (by simp [member])
    exact names_behind (by simp) (names_before inside (by simp))
  | operand _ ih | negation _ ih | conjunction _ ih => exact ih named
  | not _ ih => exact names_behind (by simp) (ih fun name member => named name (by simp [member]))
  | and _ _ ihLeft ihRight | or _ _ ihLeft ihRight =>
    have left := ihLeft fun name member => named name (by simp [member])
    have right := ihRight fun name member => named name (by simp [member])
    exact names_append left (names_behind (by simp) right)
  | beside _ _ ihLeft ihRight =>
    have left := ihLeft fun name member => named name (by simp [member])
    have right := ihRight fun name member => named name (by simp [member])
    exact names_append left right

/-- In an accepted query the words in front of colons are the names of the leaves. -/
theorem accepted_names {query : String} {limit : Nat} {tokens : List Token} {condition : Condition}
    (read : tokenize query = .ok tokens) (accepted : parse query limit = .ok condition) :
    wordsBeforeColon (tokens.map Token.kind) = condition.fieldNames := by
  obtain ⟨body, stop, again, ends, derived⟩ := Parser.parse_iff_derives.mp accepted
  obtain rfl : tokens = body ++ [stop] := by simpa [read] using again
  have named (name : String) (member : Kind.word name ∈ body.map Token.kind) : name ≠ "" := by
    apply segmented_word_ne_empty (tokenize_eq_ok_iff.mp read)
    rw [List.map_append]
    exact List.mem_append_left _ member
  have names := (derives_names derived named).reads [.stop] (by simp)
  simpa [ends, wordsBeforeColon] using names

end Derivations

/-- The fields of a condition are the names that its leaves have, from left to right and without
later repetitions. For an accepted query they are the words in front of colons, in their order. -/
theorem fields_in_order_of_naming (condition : Condition) :
    condition.fields = (condition.leaves.filterMap field?).eraseDups ∧
    ∀ query limit, parse query limit = .ok condition →
      ∃ tokens, tokenize query = .ok tokens ∧
        condition.fields = (wordsBeforeColon (tokens.map Token.kind)).eraseDups := by
  refine ⟨fields_eraseDups condition, fun query limit accepted => ?_⟩
  obtain ⟨tokens, read, -⟩ := parse_eq_ok_tokens accepted
  refine ⟨tokens, read, ?_⟩
  rw [accepted_names read accepted, fieldNames_eq_leaves, fields_eraseDups]

-- The name of a range, a name in a group behind it, a name that comes again, and words in front of
-- colons that are escaped.
theorem repeated_names_are_listed_once :
    parse "b:[x TO y] NOT (a:b OR b:c) \\::d" 2 =
        .ok (.or (.range "b" (some "x") (some "y") true true)
          (.or (.not (.or (.holds "a" "b") (.holds "b" "c"))) (.holds ":" "d"))) ∧
      fields (.or (.range "b" (some "x") (some "y") true true)
        (.or (.not (.or (.holds "a" "b") (.holds "b" "c"))) (.holds ":" "d"))) = ["b", "a", ":"] ∧
      ∃ tokens, tokenize "b:[x TO y] NOT (a:b OR b:c) \\::d" = .ok tokens ∧
        (wordsBeforeColon (tokens.map Token.kind)).eraseDups = ["b", "a", ":"] := by
  have read : tokenize "b:[x TO y] NOT (a:b OR b:c) \\::d" = .ok [⟨.word "b", 0⟩, ⟨.colon, 1⟩,
      ⟨.openBracket, 2⟩, ⟨.word "x", 3⟩, ⟨.to, 5⟩, ⟨.word "y", 8⟩, ⟨.closeBracket, 9⟩, ⟨.not, 11⟩,
      ⟨.openParen, 15⟩, ⟨.word "a", 16⟩, ⟨.colon, 17⟩, ⟨.word "b", 18⟩, ⟨.or, 20⟩, ⟨.word "b", 23⟩,
      ⟨.colon, 24⟩, ⟨.word "c", 25⟩, ⟨.closeParen, 26⟩, ⟨.word ":", 28⟩, ⟨.colon, 30⟩,
      ⟨.word "d", 31⟩, ⟨.stop, 32⟩] := tokenize_of_found (by decide +kernel)
  have accepted : parse "b:[x TO y] NOT (a:b OR b:c) \\::d" 2 =
      .ok (.or (.range "b" (some "x") (some "y") true true)
        (.or (.not (.or (.holds "a" "b") (.holds "b" "c"))) (.holds ":" "d"))) := by
    rw [parse_of_tokens read]
    rfl
  obtain ⟨listed, fromQuery⟩ := fields_in_order_of_naming
    (.or (.range "b" (some "x") (some "y") true true)
      (.or (.not (.or (.holds "a" "b") (.holds "b" "c"))) (.holds ":" "d")))
  obtain ⟨tokens, found, same⟩ := fromQuery _ _ accepted
  have names : fields (.or (.range "b" (some "x") (some "y") true true)
      (.or (.not (.or (.holds "a" "b") (.holds "b" "c"))) (.holds ":" "d"))) = ["b", "a", ":"] := by
    rw [listed]
    decide
  exact ⟨accepted, names, tokens, found, same.symm.trans names⟩

end BoolQuery.Condition
