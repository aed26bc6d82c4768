import BoolQuery.Proofs.Condition.Writing
import BoolQuery.Proofs.Query

/-! The tokens that a written condition is cut into. Each part of the text is cut by itself; all
that it asks of its surroundings is what may come directly behind it. -/
namespace BoolQuery.Token
open Lexer Text

section Cuts

/-- Wherever the text stands in a query, it is cut into tokens of these kinds, as long as what
comes behind it is as `follow` asks. -/
def Cuts (follow : List Char → Prop) (text : List Char) (kinds : List Kind) : Prop :=
  ∀ offset rest tokens, follow rest → Segmented (offset + byteSize text) rest tokens →
    ∃ front, front.map Token.kind = kinds ∧ Segmented offset (text ++ rest) (front ++ tokens)

/-- The demand of a text that ends with a token of its own: none. -/
def Anything (_ : List Char) : Prop := True

variable {follow before : List Char → Prop} {text more : List Char} {kinds others : List Kind}

theorem cuts_append (first : Cuts before text kinds) (second : Cuts follow more others)
    (fits : ∀ rest, follow rest → before (more ++ rest)) :
    Cuts follow (text ++ more) (kinds ++ others) := by
  intro offset rest tokens follows segmented
  rw [byteSize_append, ← Nat.add_assoc] at segmented
  obtain ⟨behind, rfl, cutBehind⟩ := second _ rest tokens follows segmented
  obtain ⟨front, rfl, cutFront⟩ := first offset _ _ (fits rest follows) cutBehind
  exact ⟨front ++ behind, by simp, by simpa using cutFront⟩

theorem cuts_closed_append (first : Cuts Anything text kinds) (second : Cuts follow more others) :
    Cuts follow (text ++ more) (kinds ++ others) :=
  cuts_append first second fun _ _ => trivial

theorem cuts_nil : Cuts follow [] [] :=
  fun _ _ _ _ segmented => ⟨[], rfl, by simpa [byteSize] using segmented⟩

theorem cuts_mono (cut : Cuts before text kinds) (fits : ∀ rest, follow rest → before rest) :
    Cuts follow text kinds :=
  fun offset rest tokens follows => cut offset rest tokens (fits rest follows)

theorem cuts_weaken (closed : Cuts Anything text kinds) : Cuts follow text kinds :=
  cuts_mono closed fun _ _ => trivial

theorem cuts_gap {c : Char} (blank : isBlank c) : Cuts Anything [c] [] := by
  intro offset rest tokens _ segmented
  exact ⟨[], rfl, segmented_blank blank (by simpa [byteSize] using segmented)⟩

theorem cuts_slice {kind : Kind} (spells : Spells text kind) : Cuts (endsBefore text) text [kind] := by
  intro offset rest tokens maximal segmented
  exact ⟨[⟨kind, offset⟩], rfl, segmented_slice spells maximal segmented⟩

theorem cuts_mark {c : Char} {kind : Kind} (mark : punctuation? c = some kind) :
    Cuts Anything [c] [kind] :=
  cuts_mono (cuts_slice (.punctuation mark)) fun rest _ =>
    endsBefore_delimiter (isDelimiter_of_punctuation mark) [] rest

theorem cuts_word {content : List Char} (some : text ≠ [])
    (unescapes : Unescapes isDelimiter text content) :
    Cuts EndsWord text [wordKind (String.ofList content) (text.contains '\\')] :=
  cuts_mono (cuts_slice (.word some unescapes)) fun _ ends => (endsBefore_bare some unescapes).mpr ends

/-- A query that is cut with nothing behind it has tokens, and they are of those kinds. -/
theorem tokenize_of_cuts {query : String} (cut : Cuts EndsWord query.toList kinds) :
    ∃ body stop, tokenize query = .ok (body ++ [stop]) ∧ stop.kind = .stop ∧
      body.map Token.kind = kinds := by
  obtain ⟨front, kinds, segmented⟩ := cut 0 [] _ (by simp [EndsWord]) (segmented_end _)
  rw [List.append_nil] at segmented
  exact ⟨front, _, tokenize_eq_ok_iff.mpr segmented, rfl, kinds⟩

end Cuts

section Escapes

/-- No character of a text ends a word or escapes another. -/
def isPlainText (text : List Char) : Bool := !text.any fun c => isDelimiter c || c = '\\'

theorem plain_cons {c : Char} {rest : List Char} :
    isPlainText (c :: rest) ↔ (isDelimiter c = false ∧ c ≠ '\\') ∧ isPlainText rest := by
  simp [isPlainText]

theorem unescapes_self {text : List Char} (plain : isPlainText text) :
    Unescapes isDelimiter text text := by
  induction text with
  | nil => exact .nil
  | cons c rest ih =>
    obtain ⟨⟨goesOn, isPlain⟩, others⟩ := plain_cons.mp plain
    exact .plain isPlain goesOn (ih others)

theorem plain_without_escapes {text : List Char} (plain : isPlainText text) :
    text.contains '\\' = false := by
  induction text with
  | nil => rfl
  | cons c rest ih =>
    obtain ⟨⟨-, isPlain⟩, others⟩ := plain_cons.mp plain
    rw [List.contains_cons, ih others]
    simpa using Ne.symm isPlain

-- The backslash in front of each character that would not stand for itself is undone.
theorem unescapes_escaped (ends : Char → Bool) (text : List Char) :
    Unescapes ends (text.flatMap fun c => if ends c || c = '\\' then ['\\', c] else [c]) text := by
  induction text with
  | nil => exact .nil
  | cons c rest ih =>
    rw [List.flatMap_cons]
    by_cases special : (ends c || c = '\\') = true
    · rw [if_pos special]
      exact .escaped ih
    · rw [if_neg special]
      obtain ⟨goesOn, isPlain⟩ : ends c = false ∧ c ≠ '\\' := by simpa using special
      exact .plain isPlain goesOn ih

-- A plain text is one token: what is reserved for it, or a word with that text.
theorem cuts_plain_word {text : List Char} (some : text ≠ []) (plain : isPlainText text) :
    Cuts EndsWord text [(reserved? (String.ofList text)).getD (.word (String.ofList text))] := by
  have cut := cuts_word some (unescapes_self plain)
  rwa [plain_without_escapes plain] at cut

end Escapes

end BoolQuery.Token

namespace BoolQuery.Condition
open Token Lexer

section Leaves

def valueKind (value : String) : Kind := if isBareValue value then .word value else .phrase value

def boundKind : Option String → Kind
  | some value => valueKind value
  | none => .star

def fieldKinds (field : String) : List Kind := if field = "" then [] else [.word field, .colon]

theorem isBareValue_iff {value : String} :
    isBareValue value ↔ value.toList ≠ [] ∧ reserved? value = none ∧ isPlainText value.toList := by
  simp [isBareValue, isPlainText, and_assoc]

theorem value_spells (value : String) : Spells (valueText value).toList (valueKind value) := by
  unfold valueText valueKind
  by_cases bare : isBareValue value
  · obtain ⟨isWord, free, plain⟩ := isBareValue_iff.mp bare
    have spells : Spells value.toList _ := .word isWord (unescapes_self plain)
    rw [plain_without_escapes plain, String.ofList_toList, wordKind, free] at spells
    rwa [if_pos bare, if_pos bare]
  · have spells : Spells _ _ := .phrase (unescapes_escaped (· = '\x22') value.toList)
    rw [String.ofList_toList] at spells
    rw [if_neg bare, if_neg bare, String.toList_ofList]
    exact spells

theorem value_cuts (value : String) : Cuts EndsWord (valueText value).toList [valueKind value] :=
  cuts_mono (cuts_slice (value_spells value)) fun _ => endsBefore_of_endsWord _

-- A slice behind a field: nothing in it ends the word, and an escape or its own spelling keeps
-- it from being a keyword.
theorem field_slice_cuts {slice : List Char} {field : String} (some : slice ≠ [])
    (unescapes : Unescapes isDelimiter slice field.toList)
    (isPlain : slice.contains '\\' ∨ reserved? field = none) :
    Cuts Anything (slice ++ [':']) [.word field, .colon] := by
  have word : wordKind (String.ofList field.toList) (slice.contains '\\') = .word field := by
    rw [String.ofList_toList]
    rcases isPlain with escaped | free
    · rw [escaped]
      rfl
    · simp [wordKind, free]
  have cut := cuts_word some unescapes
  rw [word] at cut
  exact cuts_append cut (cuts_mark rfl) fun rest _ => ends_word_at (by decide) rest

theorem field_cuts (field : String) :
    Cuts Anything (fieldText field).toList (fieldKinds field) := by
  unfold fieldText fieldKinds
  by_cases none : field = ""
  · rw [if_pos none, if_pos none]
    exact cuts_nil
  rw [if_neg none, if_neg none]
  obtain ⟨first, rest, name⟩ : ∃ first rest, field.toList = first :: rest :=
    List.exists_cons_of_ne_nil (by simpa using none)
  cases free : reserved? field with
  | some kind =>
    -- A keyword has nothing to escape, and gets an escape all the same.
    have unescapes : Unescapes isDelimiter ('\\' :: first :: escapeField rest) field.toList := by
      rw [name]
      exact .escaped (unescapes_escaped isDelimiter rest)
    simpa [name] using field_slice_cuts (by simp) unescapes (Or.inl (by simp))
  | none =>
    have unescapes : Unescapes isDelimiter (escapeField field.toList) field.toList :=
      unescapes_escaped isDelimiter field.toList
    have some : escapeField field.toList ≠ [] := by
      intro empty
      rw [empty, name] at unescapes
      cases unescapes
    simpa using field_slice_cuts some unescapes (Or.inr free)

theorem bound_cuts (bound : Option String) :
    Cuts EndsWord (boundText bound).toList [boundKind bound] := by
  cases bound with
  | some value => exact value_cuts value
  | none =>
    have some : ['*'] ≠ [] := by simp
    exact cuts_plain_word some (by decide)

end Leaves

section Operators

theorem keyword_cuts (word : String) {kind : Kind} (keyword : reserved? word = some kind)
    (some : word.toList ≠ []) (plain : isPlainText word.toList) :
    Cuts Anything (word ++ " ").toList [kind] := by
  have cut := cuts_plain_word some plain
  rw [String.ofList_toList, keyword] at cut
  rw [String.toList_append]
  exact cuts_append cut (cuts_gap rfl) fun rest _ => ends_word_at (by decide) rest

theorem not_cuts : Cuts Anything "NOT ".toList [.not] :=
  keyword_cuts "NOT" (by decide +kernel) (by decide) (by decide)

theorem or_cuts : Cuts Anything " OR ".toList [.or] :=
  cuts_closed_append (cuts_gap (c := ' ') rfl)
    (keyword_cuts "OR" (by decide +kernel) (by decide) (by decide))

theorem and_cuts : Cuts Anything " AND ".toList [.and] :=
  cuts_closed_append (cuts_gap (c := ' ') rfl)
    (keyword_cuts "AND" (by decide +kernel) (by decide) (by decide))

theorem to_cuts : Cuts Anything " TO ".toList [.to] :=
  cuts_closed_append (cuts_gap (c := ' ') rfl)
    (keyword_cuts "TO" (by decide +kernel) (by decide) (by decide))

end Operators

section Brackets

def openingKind (withLower : Bool) : Kind := if withLower then .openBracket else .openBrace

def closingKind (withUpper : Bool) : Kind := if withUpper then .closeBracket else .closeBrace

theorem opening_cuts (withLower : Bool) :
    Cuts Anything (if withLower then "[" else "\x7b").toList [openingKind withLower] := by
  cases withLower with
  | true => exact cuts_mark (c := '[') rfl
  | false => exact cuts_mark (c := '\x7b') rfl

theorem closing_cuts (withUpper : Bool) :
    Cuts Anything (if withUpper then "]" else "\x7d").toList [closingKind withUpper] := by
  cases withUpper with
  | true => exact cuts_mark (c := ']') rfl
  | false => exact cuts_mark (c := '\x7d') rfl

/-- What an operand is written as, between parentheses when it needs a group. -/
def groupKinds (group : Bool) (kinds : List Kind) : List Kind :=
  if group then .openParen :: (kinds ++ [.closeParen]) else kinds

theorem group_cuts {text : String} {kinds : List Kind} (group : Bool)
    (cut : Cuts EndsWord text.toList kinds) :
    Cuts EndsWord (inGroup group text).toList (groupKinds group kinds) := by
  cases group with
  | false => exact cut
  | true =>
    have inside : Cuts EndsWord (text.toList ++ [')']) (kinds ++ [.closeParen]) :=
      cuts_append cut (cuts_weaken (cuts_mark rfl)) fun rest _ => ends_word_at (by decide) rest
    have group : Cuts EndsWord ('(' :: (text.toList ++ [')']))
        (.openParen :: (kinds ++ [.closeParen])) :=
      cuts_closed_append (cuts_mark (c := '(') rfl) inside
    simpa [inGroup, groupKinds] using group

end Brackets

section Trees

/-- The kinds of the tokens that a condition is written as. -/
def kinds : Condition → List Kind
  | .holds field value => fieldKinds field ++ [valueKind value]
  | .or left right => groupKinds (groupsLeftOfOr left) left.kinds ++ .or :: right.kinds
  | .and left right =>
    groupKinds (groupsLeftOfAnd left) left.kinds ++
      .and :: groupKinds (groupsRightOfAnd right) right.kinds
  | .not inner => .not :: groupKinds (groupsUnderNot inner) inner.kinds
  | .range field lower upper withLower withUpper =>
    fieldKinds field ++ [openingKind withLower, boundKind lower, .to, boundKind upper,
      closingKind withUpper]

theorem holds_cuts (field value : String) :
    Cuts EndsWord (holdsText field value).toList (kinds (.holds field value)) := by
  rw [holdsText, String.toList_append]
  exact cuts_closed_append (field_cuts field) (value_cuts value)

theorem range_cuts (field : String) (lower upper : Option String) (withLower withUpper : Bool) :
    Cuts EndsWord (rangeText field lower upper withLower withUpper).toList
      (kinds (.range field lower upper withLower withUpper)) := by
  have ends (rest : List Char) : EndsWord ((if withUpper then "]" else "\x7d").toList ++ rest) := by
    cases withUpper with
    | true => exact ends_word_at (by decide) rest
    | false => exact ends_word_at (by decide) rest
  have upper : Cuts EndsWord _ ([boundKind upper] ++ [closingKind withUpper]) :=
    cuts_append (bound_cuts upper) (cuts_weaken (closing_cuts withUpper)) fun rest _ => ends rest
  have bounds : Cuts EndsWord _ ([boundKind lower] ++ ([.to] ++ _)) :=
    cuts_append (bound_cuts lower) (cuts_closed_append to_cuts upper)
      fun rest _ => ends_word_at (by decide) _
  have whole := cuts_closed_append (field_cuts field)
    (cuts_closed_append (opening_cuts withLower) bounds)
  simpa only [rangeText, kinds, String.toList_append, List.append_assoc, List.cons_append,
    List.nil_append] using whole

-- An operator between two operands ends the first of them.
theorem operator_cuts {operator : Kind} {left keyword right : String} {before behind : List Kind}
    (first : Cuts EndsWord left.toList before)
    (between : Cuts Anything keyword.toList [operator])
    (apart : ∀ rest, EndsWord (keyword.toList ++ rest))
    (second : Cuts EndsWord right.toList behind) :
    Cuts EndsWord (left ++ keyword ++ right).toList (before ++ operator :: behind) := by
  simp only [String.toList_append, List.append_assoc]
  refine cuts_append first (cuts_closed_append between second) fun rest _ => ?_
  rw [List.append_assoc]
  exact apart _

/-- A written condition is cut into its kinds, wherever it stands in front of a delimiter or at the
end. -/
theorem render_cuts (condition : Condition) :
    Cuts EndsWord condition.render.toList condition.kinds := by
  induction condition with
  | holds field value => exact holds_cuts field value
  | range field lower upper withLower withUpper =>
    exact range_cuts field lower upper withLower withUpper
  | or left right first second =>
    exact operator_cuts (group_cuts (groupsLeftOfOr left) first) or_cuts
      (fun rest => ends_word_at (by decide) _) second
  | and left right first second =>
    exact operator_cuts (group_cuts (groupsLeftOfAnd left) first) and_cuts
      (fun rest => ends_word_at (by decide) _) (group_cuts (groupsRightOfAnd right) second)
  | not inner ih =>
    rw [render, kinds, String.toList_append]
    exact cuts_closed_append not_cuts (group_cuts (groupsUnderNot inner) ih)

end Trees

section Writing

/-- Every written condition has tokens, and they are of its kinds. -/
theorem tokenize_query (condition : Condition) :
    ∃ body stop, tokenize condition.toQuery = .ok (body ++ [stop]) ∧ stop.kind = .stop ∧
      body.map Token.kind = condition.kinds := by
  rw [query_rendered]
  exact tokenize_of_cuts (render_cuts condition)

end Writing

end BoolQuery.Condition
