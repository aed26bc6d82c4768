import BoolQuery.Proofs.Parser.Refusal
import BoolQuery.Proofs.Query
import BoolQuery.Proofs.Text.Quoted

/-! Every way in which a query is refused, with the report of it. What the report takes from the query
are characters of the query, and no line break comes into it that is not in the query. -/
namespace BoolQuery
open Token

section Causes

variable {query : String} {limit : Nat} {error : QueryError}

/-- Why a query is refused, and the report of it. -/
inductive Refused (query : String) (limit : Nat) : QueryError → Prop
  /-- It has no tokens. -/
  | lexical {cause : Lexer.Fault} (unread : Lexer.tokenize query = .error cause) :
    Refused query limit (.ofLexer cause)
  /-- Its tokens are no query. -/
  | grammatical {tokens : List Token} {fault : Parser.Fault} (read : tokenize query = .ok tokens)
    (faults : Parser.Faults limit tokens fault) : Refused query limit (.ofParser fault)

theorem faults_of_tokens {tokens : List Token} {fault : Parser.Fault} (read : tokenize query = .ok tokens)
    (failed : Parser.parseTokens limit tokens = .error fault) : Parser.Faults limit tokens fault := by
  obtain ⟨body, stop, rfl, ends, inside⟩ := tokenize_closed read
  exact Parser.faults_of_error ends inside failed

theorem parse_of_fault {cause : Lexer.Fault} (unread : Lexer.tokenize query = .error cause)
    (limit : Nat) : parse query limit = .error (.ofLexer cause) := by
  rw [parse, tokenize, unread]
  rfl

theorem refused_of_error (failed : parse query limit = .error error) : Refused query limit error := by
  cases read : Lexer.tokenize query with
  | error cause =>
    obtain rfl : .ofLexer cause = error := Except.error.inj ((parse_of_fault read limit).symm.trans failed)
    exact .lexical read
  | ok tokens =>
    have read : tokenize query = .ok tokens := reported_ok_iff.mpr read
    obtain ⟨fault, refused, rfl⟩ := parse_error_tokens read failed
    exact .grammatical read (faults_of_tokens read refused)

end Causes

section Wording

variable {offset : Nat} {text : List Char} {tokens : List Token} {query : String} {limit : Nat}
  {error : QueryError}

theorem unescapes_subset {ends : Char → Bool} {slice text : List Char}
    (unescapes : Unescapes ends slice text) : text ⊆ slice := by
  induction unescapes with
  | nil => exact List.Subset.refl _
  | plain isPlain goesOn others ih => exact List.cons_subset_cons _ ih
  | escaped others ih => exact List.subset_cons_of_subset _ (List.cons_subset_cons _ ih)

theorem spells_text {slice : List Char} {kind : Kind} {word : String} (spells : Spells slice kind)
    (some : kind.text? = some word) : word.toList ⊆ slice := by
  cases spells with
  | punctuation mark =>
    unfold punctuation? at mark
    split at mark <;> cases mark <;> cases some
  | phrase unescapes =>
    cases some
    rw [String.toList_ofList]
    exact fun c member => List.mem_cons_of_mem _ (List.mem_append_left _ (unescapes_subset unescapes member))
  | word isWord unescapes =>
    rename_i text
    have listed := wordKind_cases (String.ofList text) (slice.contains '\\')
    generalize wordKind (String.ofList text) (slice.contains '\\') = kind at listed some
    simp only [List.mem_cons, List.not_mem_nil, or_false] at listed
    rcases listed with rfl | rfl | rfl | rfl | rfl | rfl <;> cases some
    rw [String.toList_ofList]
    exact unescapes_subset unescapes

/-- The characters of a token's text stand in the query. -/
theorem segmented_text (segmented : Segmented offset text tokens) {token : Token} (member : token ∈ tokens)
    {word : String} (some : token.kind.text? = some word) : word.toList ⊆ text := by
  induction segmented with
  | stop blank =>
    obtain rfl := List.mem_singleton.mp member
    cases some
  | @token offset gap slice rest kind tokens blank spells maximal others ih =>
    rcases List.mem_cons.mp member with rfl | later
    · exact List.Subset.trans (spells_text spells some)
        (List.Subset.trans (List.subset_append_right gap slice) (List.subset_append_left _ rest))
    · exact List.Subset.trans (ih later) (List.subset_append_right _ rest)

theorem append_whole {first second : String} (left : '\n' ∉ first.toList) (right : '\n' ∉ second.toList) :
    '\n' ∉ (first ++ second).toList := by
  rw [String.toList_append, List.mem_append, not_or]
  exact ⟨left, right⟩

theorem describe_whole {kind : Kind} (whole : ∀ text ∈ kind.text?, '\n' ∉ text.toList) :
    '\n' ∉ kind.describe.toList := by
  cases kind with
  | word text => exact append_whole (by decide) (Text.feed_not_mem_quoted text)
  | phrase text => exact append_whole (append_whole (by decide) (whole text rfl)) (by decide)
  | _ => decide

theorem message_whole {known : String → Prop} {kind : Kind} {lack : Parser.Lack}
    (complains : Parser.Complains known kind lack) (whole : ∀ name, known name → '\n' ∉ name.toList) :
    '\n' ∉ lack.message.toList := by
  cases complains with
  | operand silent => decide
  | groupClose silent => decide
  | fieldValue named silent | rangeBound named silent | rangeTo named | rangeClose named =>
    exact append_whole (append_whole (by decide) (whole _ named)) (by decide)

theorem depth_whole (limit : Nat) : '\n' ∉ (toString limit).toList := by
  have feed (digit : Nat) : Nat.digitChar digit ≠ '\n' := Nat.digitChar_ne '\n' (by decide)
  rw [Nat.toString_eq_repr, Nat.toList_repr]
  exact Text.not_mem_toDigits (by decide) feed limit

/-- The reason for which a query on one line is refused is on one line. -/
theorem reason_whole (failed : parse query limit = .error error) (whole : '\n' ∉ query.toList) :
    '\n' ∉ error.reason.toList := by
  have texts {tokens : List Token} (read : tokenize query = .ok tokens) :
      ∀ token ∈ tokens, ∀ text ∈ token.kind.text?, '\n' ∉ text.toList := fun token member text some inside =>
    whole (segmented_text (tokenize_eq_ok_iff.mp read) member some inside)
  cases refused_of_error failed with
  | @lexical cause unread =>
    cases cause with
    | unterminatedPhrase start => exact (by decide : '\n' ∉ "unterminated quoted string".toList)
    | danglingEscape mark => exact (by decide : '\n' ∉ "trailing escape character".toList)
  | @grammatical tokens fault read faults =>
    cases faults with
    | empty only => exact (by decide : '\n' ∉ "empty query".toList)
    | tooDeep member => exact append_whole (by decide) (depth_whole limit)
    | trailing member => exact (by decide : '\n' ∉ "unexpected trailing input".toList)
    | @unexpected token lack member complains =>
      have names : ∀ name, Parser.Named tokens name → '\n' ∉ name.toList := by
        rintro name ⟨other, listed, word⟩
        exact texts read other listed name (by rw [word]; rfl)
      exact append_whole (append_whole (message_whole complains names) (by decide))
        (describe_whole (texts read token member))

theorem describe_last (kind : Kind) : ∃ c, kind.describe.toList.getLast? = some c ∧ c ≠ '\r' := by
  cases kind with
  | word text =>
    have told : (Kind.word text).describe = "word " ++ Text.quoted text := rfl
    refine ⟨'\x22', ?_, by decide⟩
    rw [told, String.toList_append, List.getLast?_append, Text.quoted_last, Option.some_or]
  | phrase text =>
    have told : (Kind.phrase text).describe = "quoted string \"" ++ text ++ "\"" := rfl
    have quote : "\"".toList = ['\x22'] := rfl
    refine ⟨'\x22', ?_, by decide⟩
    rw [told, String.toList_append, quote, List.getLast?_concat]
  | _ => exact ⟨_, rfl, by decide⟩

-- A text is told with quotes around it, so none of its characters is the last one.
theorem describe_settled (front : String) (kind : Kind) :
    (front ++ kind.describe).toList.getLast? ≠ some '\r' := by
  obtain ⟨c, last, other⟩ := describe_last kind
  rw [String.toList_append, List.getLast?_append, last, Option.some_or]
  exact fun same => other (Option.some.inj same)

theorem return_not_mem_depth (limit : Nat) :
    '\r' ∉ ("query nesting exceeds maximum depth of " ++ toString limit).toList := by
  rw [String.toList_append, List.mem_append, not_or]
  refine ⟨by decide, fun written => ?_⟩
  rw [Nat.toString_eq_repr, Nat.toList_repr] at written
  exact absurd (Nat.isDigit_of_mem_toDigits (by decide) (by decide) written) (by decide)

/-- The reason for which a query is refused ends with no carriage return. -/
theorem reason_ends (failed : parse query limit = .error error) :
    error.reason.toList.getLast? ≠ some '\r' := by
  have apart {text : String} (clean : '\r' ∉ text.toList) : text.toList.getLast? ≠ some '\r' :=
    fun last => clean (List.mem_of_getLast? last)
  cases refused_of_error failed with
  | @lexical cause unread =>
    cases cause with
    | unterminatedPhrase start => exact apart (by decide : '\r' ∉ "unterminated quoted string".toList)
    | danglingEscape mark => exact apart (by decide : '\r' ∉ "trailing escape character".toList)
  | @grammatical tokens fault read faults =>
    cases faults with
    | empty only => exact apart (by decide : '\r' ∉ "empty query".toList)
    | tooDeep member => exact apart (return_not_mem_depth limit)
    | trailing member => exact apart (by decide : '\r' ∉ "unexpected trailing input".toList)
    | @unexpected token lack member complains =>
      exact describe_settled (lack.message ++ ", found ") token.kind

end Wording

end BoolQuery
