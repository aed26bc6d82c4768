import BoolQuery.Proofs.QueryError.Painted
import BoolQuery.Proofs.QueryError.Refused

/-! A report without colors. It is put together again from its lines, so what it loses are the carriage
returns in front of its line feeds, and nothing else. -/
namespace BoolQuery.QueryError
open Text

section Lines

variable {error : QueryError} {query : String}

theorem caret_ends (error : QueryError) (query : String) :
    ∀ c ∈ (error.caret query).toList.getLast?, c = '\n' := by
  unfold caret
  split
  · rw [toList_caretLine, List.getLast?_append]
    rintro c ⟨⟩
    rfl
  · rintro c ⟨⟩

theorem advice_ends (error : QueryError) : ∀ c ∈ error.advice.toList.getLast?, c = '\n' := by
  unfold advice
  split
  · have feed : "\n".toList = ['\n'] := rfl
    rw [String.toList_append, feed, List.getLast?_append]
    rintro c ⟨⟩
    rfl
  · rintro c ⟨⟩

theorem last_behind_feed (first : List Char) {rest : List Char} (below : ∀ c ∈ rest.getLast?, c = '\n') :
    (first ++ '\n' :: rest).getLast? = some '\n' := by
  rw [List.getLast?_append, List.getLast?_cons]
  cases last : rest.getLast? with
  | none => rfl
  | some c =>
    rw [below c last]
    rfl

theorem render_ends (error : QueryError) (query : String) :
    (error.render query).toList.getLast? = some '\n' := by
  have below : ∀ c ∈ ((error.caret query).toList ++ error.advice.toList).getLast?, c = '\n' := by
    intro c last
    rw [List.getLast?_append, Option.mem_def, Option.or_eq_some_iff] at last
    rcases last with last | ⟨-, last⟩
    · exact advice_ends error c last
    · exact caret_ends error query c last
  rw [toList_render]
  refine last_behind_feed _ fun c last => ?_
  rw [last_behind_feed _ below] at last
  exact (Option.some.inj last).symm

theorem toList_renderIn (error : QueryError) (query : String) :
    (error.renderIn ⟨false⟩ query).toList = withoutReturns (error.render query).toList := by
  rw [renderIn_shown, toList_shown_off]
  exact joinLines_lines (render_ends error query)

end Lines

section Returns

variable {error : QueryError} {query : String}

-- A line feed ends the last line break that text without carriage returns can have a part in.
theorem return_feed_front {first second : List Char} (clean : '\r' ∉ second) :
    ['\r', '\n'] <:+: first ++ '\n' :: second ↔ ['\r', '\n'] <:+: first ++ ['\n'] := by
  have kept : withoutReturns second = second :=
    withoutReturns_eq_self_iff.mpr fun found => clean (found.subset List.mem_cons_self)
  rw [List.append_cons, ← Decidable.not_iff_not, ← withoutReturns_eq_self_iff, ← withoutReturns_eq_self_iff,
    withoutReturns_append (Or.inl (by simp)), kept, List.append_left_inj]

theorem returns_of_render (error : QueryError) (query : String) :
    ['\r', '\n'] <:+: (error.render query).toList ↔
      ['\r', '\n'] <:+: error.reason.toList ++ ['\n'] ∨ ['\r', '\n'] <:+: query.toList ++ ['\n'] := by
  have blank : ' ' ∉ ['\r', '\n'] := by decide
  have front : "query syntax error: ".toList = "query syntax error:".toList ++ [' '] := rfl
  have clean : ¬ ['\r', '\n'] <:+: "query syntax error:".toList := fun found =>
    absurd (found.subset List.mem_cons_self) (by decide)
  have below : '\r' ∉ (error.caret query).toList ++ error.advice.toList :=
    not_mem_below (by decide) (by decide)
  have written : (error.render query).toList = "query syntax error:".toList ++ ' ' ::
      ((error.reason.toList ++ ['\n']) ++ ' ' :: ([] ++ ' ' :: (query.toList ++ '\n' ::
        ((error.caret query).toList ++ error.advice.toList)))) := by
    rw [toList_render, front]
    simp only [List.append_assoc, List.cons_append, List.nil_append]
  have nothing : ¬ ['\r', '\n'] <:+: [] := by simp
  rw [written, infix_around blank, infix_around blank, infix_around blank, return_feed_front below]
  simp only [clean, nothing, false_or]

/-- Without colors a report is what it is as plain text, but for the carriage returns that stand in front of
its line feeds. It stays as it is just when none ends the reason or the query, or a line of them. -/
theorem plain_without_returns (error : QueryError) (query : String) :
    (error.renderIn ⟨false⟩ query).toList = withoutReturns (error.render query).toList ∧
    (error.renderIn ⟨false⟩ query = error.render query ↔
      ¬ mentions "\r\n" (error.reason ++ "\n") ∧ ¬ mentions "\r\n" (query ++ "\n")) := by
  have feed : "\n".toList = ['\n'] := rfl
  have pair : "\r\n".toList = ['\r', '\n'] := rfl
  refine ⟨toList_renderIn error query, ?_⟩
  rw [mentions_iff, mentions_iff, String.toList_append, String.toList_append, feed, pair, ← not_or,
    ← returns_of_render, ← withoutReturns_eq_self_iff, ← toList_renderIn, String.toList_inj]

-- The report of a query that ends with a carriage return loses it.
theorem return_lost_without_colors :
    parse "\"a\r" 64 = .error (.lexical "unterminated quoted string" 0) ∧
      (lexical "unterminated quoted string" 0).renderIn ⟨false⟩ "\"a\r" ≠
        (lexical "unterminated quoted string" 0).render "\"a\r" := by
  have unread : Lexer.tokenize "\"a\r" = .error (.unterminatedPhrase 0) := rfl
  have ends : ['\r', '\n'] <:+: "\"a\r".toList ++ ['\n'] := ⟨['\x22', 'a'], [], rfl⟩
  refine ⟨parse_of_fault unread 64, fun same => ?_⟩
  have kept := congrArg String.toList same
  rw [toList_renderIn, withoutReturns_eq_self_iff, returns_of_render] at kept
  exact kept (Or.inr ends)

end Returns

end BoolQuery.QueryError
