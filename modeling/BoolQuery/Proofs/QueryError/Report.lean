import BoolQuery.Proofs.Text.Lines
import BoolQuery.QueryError

/-! A report as its characters: a line with the reason, a line with the query, and what stands below. -/
namespace BoolQuery.QueryError
open Text

section Characters

theorem toList_caretLine (query : String) (position : Nat) :
    (caretLine query position).toList =
      List.replicate (2 + charsBefore position 0 0 query.toList) ' ' ++ ['^', '\n'] := by
  have mark : "^\n".toList = ['^', '\n'] := rfl
  rw [caretLine, String.toList_append, toList_pushn, mark, String.toList_empty, List.nil_append]

variable (error : QueryError) (query : String)

def caret : String :=
  match error.position? with
  | some position => caretLine query position
  | none => ""

def advice : String :=
  match error.hint? with
  | some hint => "hint: " ++ hint ++ "\n"
  | none => ""

theorem toList_render : (error.render query).toList =
    ("query syntax error: ".toList ++ error.reason.toList) ++ '\n' ::
      ((' ' :: ' ' :: query.toList) ++ '\n' :: ((error.caret query).toList ++ error.advice.toList)) := by
  have written : error.render query = "query syntax error: " ++ error.reason ++ "\n  " ++ query ++ "\n" ++
      error.caret query ++ error.advice := rfl
  have margin : "\n  ".toList = ['\n', ' ', ' '] := rfl
  have feed : "\n".toList = ['\n'] := rfl
  simp only [written, String.toList_append, margin, feed, List.append_assoc, List.cons_append,
    List.nil_append]

end Characters

section Below

variable (error : QueryError) (query : String)

def hints : List String :=
  ["Add a closing quote (\") to complete the phrase",
    "A backslash escapes the next character; use \\\\ for a literal backslash",
    "Ranges are written field:[start TO end], use * for an open side",
    "Close an inclusive bound with ] or an exclusive bound with \x7d",
    "Add a closing parenthesis ) to match the opening one",
    "Remove the unmatched closing bracket or parenthesis",
    "Flatten the query or raise the parser max_depth setting"]

variable {error} in
theorem hint_listed {hint : String} (advised : error.hint? = some hint) : hint ∈ hints := by
  unfold hint? at advised
  repeat' split at advised
  all_goals
    cases advised
    try simp [hints]

variable {error} in
theorem hint_printable {hint : String} (advised : error.hint? = some hint) :
    ∀ c ∈ hint.toList, ' ' ≤ c := by
  have all : hints.all (fun hint => hint.toList.all (' ' ≤ ·)) := by decide +kernel
  simp only [List.all_eq_true, decide_eq_true_eq] at all
  exact all hint (hint_listed advised)

theorem caption_printable : ∀ c ∈ "hint: ".toList, ' ' ≤ c := by simp

theorem caret_printable : ∀ c ∈ (error.caret query).toList, ' ' ≤ c ∨ c = '\n' := by
  unfold caret
  split
  · rw [toList_caretLine]
    intro c member
    rcases List.mem_append.mp member with blank | mark
    · rw [List.eq_of_mem_replicate blank]
      decide
    · simp only [List.mem_cons, List.not_mem_nil, or_false] at mark
      rcases mark with rfl | rfl
      · decide
      · decide
  · intro c member
    cases member

theorem advice_printable : ∀ c ∈ error.advice.toList, ' ' ≤ c ∨ c = '\n' := by
  unfold advice
  split
  · next hint advised =>
    intro c member
    simp only [String.toList_append, List.mem_append] at member
    rcases member with (front | inside) | feed
    · exact Or.inl (caption_printable c front)
    · exact Or.inl (hint_printable advised c inside)
    · exact Or.inr (List.mem_singleton.mp feed)
  · intro c member
    cases member

/-- Below the query a report has no control characters but its line feeds. -/
theorem below_printable :
    ∀ c ∈ (error.caret query).toList ++ error.advice.toList, ' ' ≤ c ∨ c = '\n' := by
  intro c member
  rcases List.mem_append.mp member with caret | advice
  · exact caret_printable error query c caret
  · exact advice_printable error c advice

variable {error query} in
theorem not_mem_below {c : Char} (control : c < ' ') (other : c ≠ '\n') :
    c ∉ (error.caret query).toList ++ error.advice.toList := by
  intro member
  rcases below_printable error query c member with printable | feed
  · exact absurd printable (Char.not_le.mpr control)
  · exact other feed

end Below

end BoolQuery.QueryError
