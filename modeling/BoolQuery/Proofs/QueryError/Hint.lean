import BoolQuery.Proofs.QueryError.Refused
import BoolQuery.Proofs.Text.Lines

/-! What helps against an error follows from what is wrong, but a report chooses its advice by the wording of
the reason. The two agree except where a value or a bound of a field is missing: there is no advice against
that, and the field name that the reason repeats may call up advice against something else. -/
namespace BoolQuery

def Lexer.Fault.advice : Lexer.Fault → String
  | .unterminatedPhrase _ => "Add a closing quote (\") to complete the phrase"
  | .danglingEscape _ => "A backslash escapes the next character; use \\\\ for a literal backslash"

namespace Parser

def Fault.advice? : Fault → Option String
  | .unexpected (.rangeTo _) _ => some "Ranges are written field:[start TO end], use * for an open side"
  | .unexpected (.rangeClose _) _ => some "Close an inclusive bound with ] or an exclusive bound with \x7d"
  | .unexpected .groupClose _ => some "Add a closing parenthesis ) to match the opening one"
  | .trailing _ => some "Remove the unmatched closing bracket or parenthesis"
  | .tooDeep _ _ => some "Flatten the query or raise the parser max_depth setting"
  | .empty | .unexpected .operand _ | .unexpected (.fieldValue _) _ | .unexpected (.rangeBound _) _ => none

/-- The field of which a value or a bound is missing. -/
def Fault.bareField? : Fault → Option String
  | .unexpected (.fieldValue field) _ | .unexpected (.rangeBound field) _ => some field
  | _ => none

theorem unadvised {fault : Fault} {field : String} (bare : fault.bareField? = some field) :
    fault.advice? = none := by
  unfold Fault.bareField? at bare
  split at bare
  · rfl
  · rfl
  · cases bare

end Parser

namespace QueryError
open Text BoolQuery.Parser

section Tests

variable {phrase lead : String}

theorem begins_append {first : String} (begins : beginsWith lead first) (second : String) :
    beginsWith lead (first ++ second) := by
  rw [beginsWith_iff] at begins ⊢
  rw [String.toList_append]
  exact begins.trans (List.prefix_append _ _)

-- How a text begins is told by any beginning of it that is long enough.
theorem begins_congr {text : String} (begins : beginsWith lead text)
    (short : phrase.toList.length ≤ lead.toList.length) :
    beginsWith phrase text = beginsWith phrase lead := by
  rw [beginsWith_iff] at begins
  rw [Bool.eq_iff_iff, beginsWith_iff, beginsWith_iff]
  exact ⟨fun other => List.prefix_of_prefix_length_le other begins short, fun other => other.trans begins⟩

theorem mentions_of_begins {text : String} (begins : beginsWith lead text) (inside : mentions phrase lead) :
    mentions phrase text := by
  rw [beginsWith_iff] at begins
  rw [mentions_iff] at inside ⊢
  exact inside.trans begins.isInfix

/-- The phrases that a reason is searched for, wherever they stand in it. -/
def cues : List String := ["close range", "trailing", "maximum depth"]

/-- None of the phrases that a reason is searched for stands in a text. -/
def NoCue (text : List Char) : Prop := ∀ cue ∈ cues, occursIn cue.toList text = false

instance (text : List Char) : Decidable (NoCue text) := List.decidableBAll _ cues

theorem cue_absent (clean : NoCue text) (cue : phrase ∈ cues) : ¬ phrase.toList <:+: text := by
  rw [← occursIn_iff, clean phrase cue]
  exact Bool.false_ne_true

theorem mark_not_mem_cue (cue : phrase ∈ cues) {c : Char} (mark : c ∈ [',', ':', '\'']) :
    c ∉ phrase.toList := by
  simp only [cues, List.mem_cons, List.not_mem_nil, or_false] at cue mark
  rcases cue with rfl | rfl | rfl
  all_goals
    rcases mark with rfl | rfl | rfl
    all_goals decide

/-- The advice that the phrases in a text call up. -/
def calledUp? (text : String) : Option String :=
  if mentions "close range" text then some "Close an inclusive bound with ] or an exclusive bound with \x7d"
  else if mentions "trailing" text then some "Remove the unmatched closing bracket or parenthesis"
  else if mentions "maximum depth" text then some "Flatten the query or raise the parser max_depth setting"
  else none

theorem calledUp_congr {first second : String}
    (alike : ∀ cue ∈ cues, mentions cue first = mentions cue second) :
    calledUp? first = calledUp? second := by
  unfold calledUp?
  rw [alike "close range" (by simp [cues]), alike "trailing" (by simp [cues]),
    alike "maximum depth" (by simp [cues])]

theorem calledUp_none_iff {text : String} : calledUp? text = none ↔
    ¬ (mentions "close range" text ∨ mentions "trailing" text ∨ mentions "maximum depth" text) := by
  unfold calledUp?
  split
  · simp_all
  split
  · simp_all
  split <;> simp_all

/-- A beginning is long enough to tell that a reason has neither of the two wordings that are looked for in
front. -/
def tellsApart (lead : String) : Bool :=
  13 ≤ lead.toList.length && !beginsWith "expected 'TO'" lead && !beginsWith "expected ')'" lead

/-- Such a reason is only searched for phrases. -/
theorem hint_calledUp {reason : String} (begins : beginsWith lead reason) (apart : tellsApart lead)
    (place : Option Nat) : (grammatical reason place).hint? = calledUp? reason := by
  have sizes : "expected 'TO'".toList.length = 13 ∧ "expected ')'".toList.length = 12 := by decide
  simp only [tellsApart, Bool.and_eq_true, decide_eq_true_eq, Bool.not_eq_true'] at apart
  obtain ⟨⟨long, noTo⟩, noParen⟩ := apart
  rw [← begins_congr begins (by omega)] at noTo noParen
  simp only [hint?, noTo, noParen, calledUp?, Bool.false_eq_true, if_false]

end Tests

section Reasons

variable {phrase : String} {kind : Token.Kind} {field : String}

-- Marks that are in no phrase keep the field name apart from the wording around it.
theorem mentions_around {front back : String} {before after : List Char} {mark : Char} (cue : phrase ∈ cues)
    (quoted : front.toList = before ++ ['\'']) (closed : back.toList = mark :: after)
    (marked : mark ∈ [',', ':', '\'']) (cleanBefore : NoCue before) (cleanAfter : NoCue after) :
    mentions phrase (front ++ field ++ back) = mentions phrase field := by
  rw [Bool.eq_iff_iff, mentions_iff, mentions_iff, String.toList_append, String.toList_append, quoted, closed,
    List.append_assoc, List.append_assoc, List.singleton_append,
    infix_around (mark_not_mem_cue cue (by simp)), infix_around (mark_not_mem_cue cue marked)]
  simp only [cue_absent cleanBefore cue, cue_absent cleanAfter cue, false_or, or_false]

theorem mentions_fieldValue (cue : phrase ∈ cues) :
    mentions phrase (Lack.fieldValue field).message = mentions phrase field := by
  have front : "expected a value after '".toList = "expected a value after ".toList ++ ['\''] := rfl
  have back : ":'".toList = [':', '\''] := rfl
  exact mentions_around cue front back (by simp) (by decide) (by decide)

theorem mentions_rangeBound (cue : phrase ∈ cues) :
    mentions phrase (Lack.rangeBound field).message = mentions phrase field := by
  have front : "expected a range bound for '".toList = "expected a range bound for ".toList ++ ['\''] := rfl
  have back : "'".toList = ['\''] := rfl
  exact mentions_around cue front back (by simp) (by decide) (by decide)

theorem silent_clean (silent : kind.text? = none) : NoCue (" found ".toList ++ kind.describe.toList) := by
  cases kind with
  | word text | phrase text => cases silent
  | _ => decide

theorem mentions_unexpected (cue : phrase ∈ cues) (silent : kind.text? = none) (message : String) :
    mentions phrase (message ++ ", found " ++ kind.describe) = mentions phrase message := by
  have comma : ", found ".toList = ',' :: " found ".toList := rfl
  rw [Bool.eq_iff_iff, mentions_iff, mentions_iff, String.toList_append, String.toList_append, comma,
    List.append_assoc, List.cons_append, infix_around (mark_not_mem_cue cue (by simp))]
  exact or_iff_left (cue_absent (silent_clean silent) cue)

-- Where the token that is found has no text, only the message in front of it counts.
theorem calledUp_unexpected (silent : kind.text? = none) (message : String) :
    calledUp? (message ++ ", found " ++ kind.describe) = calledUp? message :=
  calledUp_congr fun _ cue => mentions_unexpected cue silent message

end Reasons

section Faults

variable {phrase lead : String} {token : Token}

-- The letter in front of the number parts it from the wording, and no phrase is made of digits.
theorem mentions_tooDeep {c : Char} (member : c ∈ phrase.toList) (digit : c.isDigit = false) (blank : c ≠ ' ')
    (parts : 'f' ∉ phrase.toList)
    (clean : occursIn phrase.toList "query nesting exceeds maximum depth o".toList = false) (limit : Nat) :
    mentions phrase ("query nesting exceeds maximum depth of " ++ toString limit) = false := by
  have front : "query nesting exceeds maximum depth of ".toList =
      "query nesting exceeds maximum depth o".toList ++ ['f', ' '] := rfl
  rw [Bool.eq_false_iff, Ne, mentions_iff, String.toList_append, front, List.append_assoc, List.cons_append,
    infix_around parts, ← occursIn_iff, clean]
  rintro (wording | number)
  · cases wording
  · have inside := number.subset member
    rw [Nat.toString_eq_repr, Nat.toList_repr, List.singleton_append, List.mem_cons] at inside
    rcases inside with rfl | written
    · exact blank rfl
    · have isDigit := Nat.isDigit_of_mem_toDigits (by decide) (by decide) written
      exact Bool.false_ne_true (digit.symm.trans isDigit)

theorem hint_tooDeep (limit offset : Nat) :
    (ofParser (.tooDeep limit offset)).hint? = (Fault.tooDeep limit offset).advice? := by
  have begins : beginsWith "query nesting exceeds maximum depth of " (Fault.tooDeep limit offset).reason :=
    begins_append (by decide) _
  have noClose : mentions "close range" (Fault.tooDeep limit offset).reason = false :=
    mentions_tooDeep (by decide : 'c' ∈ _) (by decide) (by decide) (by decide) (by decide) limit
  have noTrailing : mentions "trailing" (Fault.tooDeep limit offset).reason = false :=
    mentions_tooDeep (by decide : 't' ∈ _) (by decide) (by decide) (by decide) (by decide) limit
  have deep : mentions "maximum depth" (Fault.tooDeep limit offset).reason :=
    mentions_of_begins begins (by decide)
  refine (hint_calledUp begins (by decide) _).trans ?_
  simp only [calledUp?, noClose, noTrailing, deep, if_true, Bool.false_eq_true, if_false]
  rfl

theorem hint_trailing (offset : Nat) :
    (ofParser (.trailing offset)).hint? = (Fault.trailing offset).advice? := by
  have calls : calledUp? "unexpected trailing input" =
      some "Remove the unmatched closing bracket or parenthesis" := by decide
  have begins : beginsWith "unexpected trailing input" "unexpected trailing input" := by decide
  exact (hint_calledUp begins (by decide) _).trans calls

theorem hint_unexpected {lack : Lack} (silent : token.kind.text? = none)
    (begins : beginsWith lead lack.message) (apart : tellsApart lead) :
    (ofParser (.unexpected lack token)).hint? = calledUp? lack.message :=
  (hint_calledUp (begins_append (begins_append begins _) _) apart _).trans
    (calledUp_unexpected silent lack.message)

theorem hint_operand (silent : token.kind.text? = none) :
    (ofParser (.unexpected .operand token)).hint? = none := by
  have begins : beginsWith "expected a term" Lack.operand.message := by decide
  rw [hint_unexpected silent begins (by decide)]
  decide

theorem hint_fieldValue (silent : token.kind.text? = none) (field : String) :
    (ofParser (.unexpected (.fieldValue field) token)).hint? = calledUp? field := by
  have begins : beginsWith "expected a value after '" (Lack.fieldValue field).message :=
    begins_append (begins_append (by decide) _) _
  rw [hint_unexpected silent begins (by decide)]
  exact calledUp_congr fun _ cue => mentions_fieldValue cue

theorem hint_rangeBound (silent : token.kind.text? = none) (field : String) :
    (ofParser (.unexpected (.rangeBound field) token)).hint? = calledUp? field := by
  have begins : beginsWith "expected a range bound for '" (Lack.rangeBound field).message :=
    begins_append (begins_append (by decide) _) _
  rw [hint_unexpected silent begins (by decide)]
  exact calledUp_congr fun _ cue => mentions_rangeBound cue

theorem hint_rangeTo (field : String) :
    (ofParser (.unexpected (.rangeTo field) token)).hint? =
      (Fault.unexpected (.rangeTo field) token).advice? := by
  have begins : beginsWith "expected 'TO'" (Fault.unexpected (.rangeTo field) token).reason :=
    begins_append (begins_append (begins_append (begins_append (by decide) _) _) _) _
  simp only [ofParser, hint?, begins, if_true]
  rfl

theorem hint_rangeClose (field : String) :
    (ofParser (.unexpected (.rangeClose field) token)).hint? =
      (Fault.unexpected (.rangeClose field) token).advice? := by
  have begins : beginsWith "expected ']' or '\x7d' to close range for '"
      (Fault.unexpected (.rangeClose field) token).reason :=
    begins_append (begins_append (begins_append (begins_append (by decide) _) _) _) _
  have close : mentions "close range" (Fault.unexpected (.rangeClose field) token).reason :=
    mentions_of_begins begins (by decide)
  refine (hint_calledUp begins (by decide) _).trans ?_
  simp only [calledUp?, close, if_true]
  rfl

theorem hint_groupClose (silent : token.kind.text? = none) :
    (ofParser (.unexpected .groupClose token)).hint? = (Fault.unexpected .groupClose token).advice? := by
  have begins : beginsWith "expected ')' to close group" (Fault.unexpected .groupClose token).reason :=
    begins_append (begins_append (by decide) _) _
  have noTo : beginsWith "expected 'TO'" (Fault.unexpected .groupClose token).reason = false :=
    (begins_congr begins (by decide)).trans (by decide)
  have paren : beginsWith "expected ')'" (Fault.unexpected .groupClose token).reason = true :=
    (begins_congr begins (by decide)).trans (by decide)
  have noClose : mentions "close range" (Fault.unexpected .groupClose token).reason = false :=
    (mentions_unexpected (by simp [cues]) silent _).trans (by decide)
  simp only [ofParser, hint?, noTo, paren, noClose, if_true, Bool.false_eq_true, if_false]
  rfl

/-- The hint is the advice; where there is none it is what the name of a field calls up. -/
theorem hint_of_faults {limit : Nat} {tokens : List Token} {fault : Fault}
    (faults : Faults limit tokens fault) :
    (ofParser fault).hint? = fault.advice?.or (fault.bareField?.bind calledUp?) := by
  cases faults with
  | empty only => rfl
  | tooDeep member => exact hint_tooDeep limit _
  | trailing member => exact hint_trailing _
  | unexpected member complains =>
    cases complains with
    | operand silent => exact hint_operand silent
    | groupClose silent => exact hint_groupClose silent
    | fieldValue named silent => exact hint_fieldValue silent _
    | rangeBound named silent => exact hint_rangeBound silent _
    | rangeTo named => exact hint_rangeTo _
    | rangeClose named => exact hint_rangeClose _

end Faults

section Queries

variable (query : String) (limit : Nat)

/-- The hint of a refused query is the advice about what is wrong with it, whatever its words are, but
for one case: where a value or a bound is missing, the name of the field may call up another advice. -/
theorem hints_by_cause :
    (∀ cause, Lexer.tokenize query = .error cause →
      ∃ error, parse query limit = .error error ∧ error.hint? = some cause.advice) ∧
    ∀ tokens fault, tokenize query = .ok tokens → parseTokens limit tokens = .error fault →
      ∃ error, parse query limit = .error error ∧
        error.hint? = fault.advice?.or (fault.bareField?.bind calledUp?) ∧
        (error.hint? = fault.advice? ↔ ∀ field, fault.bareField? = some field →
          ¬ (mentions "close range" field ∨ mentions "trailing" field ∨ mentions "maximum depth" field)) := by
  constructor
  · intro cause unread
    refine ⟨_, parse_of_fault unread limit, ?_⟩
    cases cause with
    | unterminatedPhrase start => rfl
    | danglingEscape mark => rfl
  · intro tokens fault read failed
    have reported : parse query limit = .error (ofParser fault) := by
      rw [parse_of_tokens read, failed]
      rfl
    have hint := hint_of_faults (faults_of_tokens read failed)
    refine ⟨_, reported, hint, ?_⟩
    rw [hint]
    cases bare : fault.bareField? with
    | none => simp
    | some field =>
      rw [unadvised bare]
      simpa using calledUp_none_iff

-- The colon has no value behind it. A bracket too many is not what is wrong.
theorem field_name_calls_up_advice :
    tokenize "trailing:" = .ok [⟨.word "trailing", 0⟩, ⟨.colon, 8⟩, ⟨.stop, 9⟩] ∧
      parseTokens 64 [⟨.word "trailing", 0⟩, ⟨.colon, 8⟩, ⟨.stop, 9⟩] =
        .error (.unexpected (.fieldValue "trailing") ⟨.stop, 9⟩) ∧
      ∃ error, parse "trailing:" 64 = .error error ∧
        error.hint? = some "Remove the unmatched closing bracket or parenthesis" := by
  have read : tokenize "trailing:" = .ok [⟨.word "trailing", 0⟩, ⟨.colon, 8⟩, ⟨.stop, 9⟩] :=
    tokenize_of_found (by decide +kernel)
  have reported : parse "trailing:" 64 =
      .error (ofParser (.unexpected (.fieldValue "trailing") ⟨.stop, 9⟩)) := by
    rw [parse_of_tokens read]
    rfl
  have calls : calledUp? "trailing" = some "Remove the unmatched closing bracket or parenthesis" := by decide
  exact ⟨read, rfl, _, reported, (hint_fieldValue rfl "trailing").trans calls⟩

end Queries

end QueryError
end BoolQuery
