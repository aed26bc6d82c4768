import BoolQuery.Proofs.QueryError.Painted
import BoolQuery.Proofs.QueryError.Refused

/-! A report in color. Its lines get their tones from how they begin, and a reason or a query may have line
feeds in it. So a message is red up to its first line feed, and a line of the query that begins as a message
or a hint does is in color like one. -/
namespace BoolQuery.QueryError
open Text Palette

def adviceIn (palette : Palette) (error : QueryError) : String :=
  match error.hint? with
  | some hint => palette.paint .dim ("hint: " ++ hint) ++ "\n"
  | none => ""

/-- A report of which the message is red, the advice is dim and all else is without color. -/
def highlighted (error : QueryError) (query : String) : String :=
  paint ⟨true⟩ .error ("query syntax error: " ++ error.reason) ++ "\n" ++ "  " ++ query ++ "\n" ++
    error.caret query ++ adviceIn ⟨true⟩ error

section Painted

variable (palette : Palette)

def painted (text : List Char) : List Char := (palette.shown (pieces (linesFrom [] text))).toList

theorem painted_append (first rest : List Char) :
    painted palette (first ++ '\n' :: rest) = painted palette (first ++ ['\n']) ++ painted palette rest := by
  simp only [painted, linesFrom_append [] first rest, pieces, shown, List.flatMap_append, List.map_append,
    String.join_append, String.toList_append]

theorem painted_line {line : List Char} (whole : '\n' ∉ line) :
    painted palette (line ++ ['\n']) =
      (paintLine palette (String.ofList (dropReturn line.reverse).reverse)).toList ++ ['\n'] := by
  rw [painted, linesFrom_feed whole, List.append_nil, linesFrom, if_pos rfl, shown_pieces_cons,
    String.toList_append, String.toList_append]
  simp [pieces, shown]

-- A line that ends with a carriage return is shown without it.
theorem painted_kept {line : List Char} (whole : '\n' ∉ line) (ends : line.getLast? ≠ some '\r') :
    painted palette (line ++ ['\n']) = (paintLine palette (String.ofList line)).toList ++ ['\n'] := by
  have kept : dropReturn line.reverse = line.reverse :=
    dropReturn_kept (by rwa [List.head?_reverse])
  rw [painted_line palette whole, kept, List.reverse_reverse]

theorem message_head : "query syntax error:".toList = 'q' :: "uery syntax error:".toList := rfl

theorem hint_head : "hint:".toList = 'h' :: "int:".toList := rfl

theorem lineTone_caption (text : List Char) :
    lineTone? (String.ofList ("query syntax error: ".toList ++ text)) = some .error := by
  have caption : "query syntax error: ".toList = "query syntax error:".toList ++ [' '] := rfl
  have begins : beginsWith "query syntax error:" (String.ofList ("query syntax error: ".toList ++ text)) := by
    rw [beginsWith_ofList, caption, List.append_assoc]
    exact List.prefix_append _ _
  rw [lineTone?, if_pos begins]

-- The first character tells a phrase from a line that begins otherwise.
theorem not_beginsWith {phrase : String} {c d : Char} {rest text : List Char}
    (first : phrase.toList = c :: rest) (other : c ≠ d) :
    beginsWith phrase (String.ofList (d :: text)) = false := by
  rw [Bool.eq_false_iff, Ne, beginsWith_ofList, first]
  exact fun begins => other (List.cons_prefix_cons.mp begins).1

theorem lineTone_hint (text : List Char) :
    lineTone? (String.ofList ("hint: ".toList ++ text)) = some .dim := by
  have front : "hint: ".toList = "hint:".toList ++ [' '] := rfl
  have begins : beginsWith "hint:" (String.ofList ("hint: ".toList ++ text)) := by
    rw [beginsWith_ofList, front, List.append_assoc]
    exact List.prefix_append _ _
  rw [lineTone?, if_pos begins, front, hint_head]
  exact if_neg (by rw [List.cons_append, List.cons_append, not_beginsWith message_head (by decide)]; simp)

theorem lineTone_blank (text : List Char) : lineTone? (String.ofList (' ' :: text)) = none := by
  rw [lineTone?, not_beginsWith message_head (by decide), not_beginsWith hint_head (by decide),
    if_neg Bool.false_ne_true, if_neg Bool.false_ne_true]

theorem painted_caption {first : List Char} (whole : '\n' ∉ first) :
    painted palette ("query syntax error: ".toList ++ first ++ ['\n']) =
      (palette.paint .error ("query syntax error: " ++ String.ofList (dropReturn first.reverse).reverse)).toList ++
        ['\n'] := by
  have captioned : '\n' ∉ "query syntax error: ".toList ++ first := by
    rw [List.mem_append, not_or]
    exact ⟨by decide, whole⟩
  have shown : (dropReturn ("query syntax error: ".toList ++ first).reverse).reverse =
      "query syntax error: ".toList ++ (dropReturn first.reverse).reverse := by
    rw [List.reverse_append, dropReturn_append _ (by decide), List.reverse_append, List.reverse_reverse]
  rw [painted_line palette captioned, shown, paintLine_eq, lineTone_caption, String.ofList_append,
    String.ofList_toList]
  rfl

variable (error : QueryError) (query : String)

theorem painted_blank {line : List Char} (whole : '\n' ∉ line) (ends : line.getLast? ≠ some '\r')
    (rest : List Char) :
    painted palette (' ' :: line ++ '\n' :: rest) = ' ' :: line ++ '\n' :: painted palette rest := by
  have indented : '\n' ∉ ' ' :: line := by simp [whole]
  have last : (' ' :: line).getLast? ≠ some '\r' := by
    cases line with
    | nil => simp
    | cons c more => rwa [List.getLast?_cons_cons]
  rw [painted_append, painted_kept palette indented last, paintLine_eq, lineTone_blank]
  simp [inTone]

theorem painted_caret (rest : List Char) :
    painted palette ((error.caret query).toList ++ rest) =
      (error.caret query).toList ++ painted palette rest := by
  unfold caret
  split
  · next position _ =>
    have margin : List.replicate (2 + charsBefore position 0 0 query.toList) ' ' =
        ' ' :: List.replicate (charsBefore position 0 0 query.toList + 1) ' ' := by
      rw [Nat.add_comm, List.replicate_succ]
    have line (rest : List Char) : (caretLine query position).toList ++ rest =
        ' ' :: (List.replicate (charsBefore position 0 0 query.toList + 1) ' ' ++ ['^']) ++ '\n' :: rest := by
      rw [toList_caretLine, margin]
      simp
    rw [line, line]
    exact painted_blank palette (by simp) (by simp) rest
  · rfl

theorem painted_advice : painted palette error.advice.toList = (adviceIn palette error).toList := by
  unfold advice adviceIn
  cases advised : error.hint? with
  | none => rfl
  | some hint =>
    have printable : ∀ c ∈ "hint: ".toList ++ hint.toList, ' ' ≤ c := by
      intro c member
      rcases List.mem_append.mp member with before | inside
      · exact caption_printable c before
      · exact hint_printable advised c inside
    have whole : '\n' ∉ "hint: ".toList ++ hint.toList := fun member =>
      absurd (printable _ member) (by decide)
    have ends : ("hint: ".toList ++ hint.toList).getLast? ≠ some '\r' := fun last =>
      absurd (printable _ (List.mem_of_getLast? last)) (by decide)
    have line : ("hint: " ++ hint ++ "\n").toList = "hint: ".toList ++ hint.toList ++ ['\n'] := by
      rw [String.toList_append, String.toList_append]
      rfl
    simp only [line]
    rw [painted_kept palette whole ends, paintLine_eq, lineTone_hint, String.ofList_append,
      String.ofList_toList, String.ofList_toList, String.toList_append]
    rfl

variable {error query}

/-- A report with its first line feed found: what is above is the message, what is between is shown line by
line, and what is below the query is the caret and the advice. -/
theorem toList_renderIn_cut {first rest : List Char} (whole : '\n' ∉ first)
    (cut : error.reason.toList ++ '\n' :: ' ' :: ' ' :: query.toList = first ++ '\n' :: rest) :
    (error.renderIn palette query).toList =
      (palette.paint .error
          ("query syntax error: " ++ String.ofList (dropReturn first.reverse).reverse)).toList ++
        '\n' :: (painted palette (rest ++ ['\n']) ++
          ((error.caret query).toList ++ (adviceIn palette error).toList)) := by
  have report : (error.render query).toList = ("query syntax error: ".toList ++ first) ++
      '\n' :: (rest ++ '\n' :: ((error.caret query).toList ++ error.advice.toList)) := by
    have below := congrArg (· ++ '\n' :: ((error.caret query).toList ++ error.advice.toList)) cut
    simp only [List.append_assoc, List.cons_append] at below
    rw [toList_render]
    simp only [List.append_assoc, List.cons_append, below]
  have shown : (error.renderIn palette query).toList = painted palette (error.render query).toList := by
    rw [renderIn_shown, painted]
  rw [shown, report, painted_append, painted_caption palette whole, painted_append, painted_caret,
    painted_advice]
  simp only [List.append_assoc, List.cons_append, List.nil_append]

end Painted

section Untouched

variable {text : List Char}

theorem toList_paint_on (tone : Tone) (text : String) :
    (paint ⟨true⟩ tone text).toList = tone.start.toList ++ (text.toList ++ '\x1b' :: ['[', '0', 'm']) := by
  have ends : reset.toList = '\x1b' :: ['[', '0', 'm'] := rfl
  rw [paint, wrap, if_pos rfl, String.toList_append, String.toList_append, ends, List.append_assoc]

-- Every line in color has two escapes more than it has without.
theorem count_inTone (tone : Option Tone) (text : String) :
    (inTone ⟨true⟩ tone text).toList.count '\x1b' =
      text.toList.count '\x1b' + if tone.isSome then 2 else 0 := by
  cases tone with
  | none => rfl
  | some tone =>
    have starts : tone.start.toList.count '\x1b' = 1 := by cases tone <;> decide
    rw [inTone, toList_paint_on, List.count_append, List.count_append, starts]
    simp
    omega

theorem count_shown (lines : List (List Char)) :
    (shown ⟨true⟩ (pieces lines)).toList.count '\x1b' = (joinLines lines).count '\x1b' +
      2 * lines.countP fun line => (lineTone? (String.ofList line)).isSome := by
  induction lines with
  | nil => rfl
  | cons line rest ih =>
    have joined : joinLines (line :: rest) = line ++ '\n' :: joinLines rest := by simp [joinLines]
    rw [shown_pieces_cons, paintLine_eq, String.toList_append, String.toList_append, List.count_append, ih,
      List.count_append, count_inTone, String.toList_ofList, joined, List.count_append, List.countP_cons]
    simp
    split <;> omega

theorem count_withoutReturns {c : Char} (other : c ≠ '\r') (text : List Char) :
    (withoutReturns text).count c = text.count c := by
  induction text with
  | nil => rfl
  | cons d rest ih =>
    rw [withoutReturns_cons]
    split
    · next lost => rw [ih, lost.1, List.count_cons_of_ne (Ne.symm other)]
    · rw [List.count_cons, List.count_cons, ih]

theorem shown_toneless {lines : List (List Char)}
    (toneless : ∀ line ∈ lines, lineTone? (String.ofList line) = none) :
    (shown ⟨true⟩ (pieces lines)).toList = joinLines lines := by
  induction lines with
  | nil => rfl
  | cons line rest ih =>
    have others := ih fun other later => toneless other (List.mem_cons_of_mem line later)
    rw [shown_pieces_cons, paintLine_eq, toneless line List.mem_cons_self, String.toList_append, others]
    simp [inTone, joinLines]

/-- Lines are shown as they are just when no line has a tone and no carriage return ends a line. -/
theorem painted_self_iff (ends : text.getLast? = some '\n') :
    painted ⟨true⟩ text = text ↔
      ¬ ['\r', '\n'] <:+: text ∧ ∀ line ∈ linesFrom [] text, lineTone? (String.ofList line) = none := by
  constructor
  · intro same
    have counted := count_shown (linesFrom [] text)
    rw [joinLines_lines ends, count_withoutReturns (by decide)] at counted
    have escapes : (painted ⟨true⟩ text).count '\x1b' = text.count '\x1b' := by rw [same]
    rw [painted] at escapes
    have uncolored : (linesFrom [] text).countP (fun line => (lineTone? (String.ofList line)).isSome) = 0 := by
      omega
    have toneless : ∀ line ∈ linesFrom [] text, lineTone? (String.ofList line) = none := by
      simpa using List.countP_eq_zero.mp uncolored
    rw [painted, shown_toneless toneless, joinLines_lines ends, withoutReturns_eq_self_iff] at same
    exact ⟨same, toneless⟩
  · rintro ⟨kept, toneless⟩
    rw [painted, shown_toneless toneless, joinLines_lines ends]
    exact withoutReturns_eq_self_iff.mpr kept

end Untouched

section Reports

variable {error : QueryError} {query : String}

theorem toList_highlighted (error : QueryError) (query : String) :
    (error.highlighted query).toList = (paint ⟨true⟩ .error ("query syntax error: " ++ error.reason)).toList ++
      '\n' :: ((' ' :: ' ' :: (query.toList ++ ['\n'])) ++
        ((error.caret query).toList ++ (adviceIn ⟨true⟩ error).toList)) := by
  have feed : "\n".toList = ['\n'] := rfl
  have margin : "  ".toList = [' ', ' '] := rfl
  rw [highlighted]
  simp only [String.toList_append, feed, margin, List.append_assoc, List.cons_append, List.nil_append]

-- The color ends behind the first line, so what follows that line in the message is an escape.
theorem kept_of_same {line above below : List Char} {c : Char}
    (same : (dropReturn line.reverse).reverse ++ '\x1b' :: above = line ++ c :: below) :
    line.getLast? ≠ some '\r' ∧ '\x1b' = c ∧ above = below := by
  rcases dropReturn_cases line.reverse with ⟨other, kept⟩ | longer
  · rw [kept, List.reverse_reverse] at same
    obtain ⟨rfl, rest⟩ := List.cons.inj (List.append_cancel_left same)
    rw [List.head?_reverse] at other
    exact ⟨other, rfl, rest⟩
  · have whole : line = (dropReturn line.reverse).reverse ++ ['\r'] := by
      rw [← List.reverse_cons, ← longer, List.reverse_reverse]
    generalize (dropReturn line.reverse).reverse = front at same whole
    rw [whole, List.append_assoc] at same
    exact absurd (List.cons.inj (List.append_cancel_left same)).1 (by decide)

theorem message_behind (text : String) (rest : List Char) :
    (paint ⟨true⟩ .error ("query syntax error: " ++ text)).toList ++ rest =
      (Tone.error.start ++ "query syntax error: ").toList ++
        (text.toList ++ '\x1b' :: ('[' :: '0' :: 'm' :: rest)) := by
  rw [toList_paint_on]
  simp only [String.toList_append, List.append_assoc, List.cons_append, List.nil_append]

theorem whole_of_highlighted (same : error.renderIn ⟨true⟩ query = error.highlighted query) :
    '\n' ∉ error.reason.toList := by
  intro feed
  obtain ⟨first, rest, cut, whole⟩ := List.eq_append_cons_of_mem feed
  have report : error.reason.toList ++ '\n' :: ' ' :: ' ' :: query.toList =
      first ++ '\n' :: (rest ++ '\n' :: ' ' :: ' ' :: query.toList) := by
    rw [cut, List.append_assoc, List.cons_append]
  have chars := congrArg String.toList same
  rw [toList_renderIn_cut ⟨true⟩ whole report, toList_highlighted, message_behind, message_behind,
    String.toList_ofList, cut, List.append_assoc first] at chars
  obtain ⟨-, escape, -⟩ := kept_of_same (List.append_cancel_left chars)
  exact absurd escape (by decide)

theorem highlighted_iff_whole (whole : '\n' ∉ error.reason.toList) :
    error.renderIn ⟨true⟩ query = error.highlighted query ↔
      error.reason.toList.getLast? ≠ some '\r' ∧
        painted ⟨true⟩ (' ' :: ' ' :: (query.toList ++ ['\n'])) = ' ' :: ' ' :: (query.toList ++ ['\n']) := by
  rw [← String.toList_inj, toList_renderIn_cut ⟨true⟩ whole rfl, toList_highlighted, message_behind,
    message_behind, String.toList_ofList]
  constructor
  · intro same
    obtain ⟨ends, -, below⟩ := kept_of_same (List.append_cancel_left same)
    simp only [List.cons.injEq, true_and] at below
    exact ⟨ends, List.append_cancel_right below⟩
  · rintro ⟨ends, lines⟩
    have kept : dropReturn error.reason.toList.reverse = error.reason.toList.reverse :=
      dropReturn_kept (by rwa [List.head?_reverse])
    rw [kept, List.reverse_reverse, List.cons_append, List.cons_append, lines]

theorem lineTone_none_iff {line : List Char} : lineTone? (String.ofList line) = none ↔
    ¬ "query syntax error:".toList <+: line ∧ ¬ "hint:".toList <+: line := by
  rw [← beginsWith_ofList, ← beginsWith_ofList, lineTone?]
  split
  · simp [*]
  split <;> simp [*]

-- The margin keeps the first line of the query from beginning with a phrase.
theorem begins_indented_iff {phrase rest : List Char} {c : Char} (first : phrase = c :: rest)
    (letter : c ≠ ' ') (feed : '\n' ∉ phrase) (return_ : '\r' ∉ phrase) (text : List Char) :
    (∃ line ∈ linesFrom [] (' ' :: ' ' :: (text ++ ['\n'])), phrase <+: line) ↔
      '\n' :: phrase <:+: text := by
  subst first
  have last : ¬ '\n' :: c :: rest <:+ text ++ ['\n'] := by
    rintro ⟨front, same⟩
    have ends := congrArg List.getLast? same
    rw [List.getLast?_append, List.getLast?_concat, List.getLast?_cons_cons] at ends
    cases last : (c :: rest).getLast? with
    | none => simp at last
    | some d =>
      rw [last] at ends
      obtain rfl : d = '\n' := Option.some.inj ends
      exact feed (List.mem_of_getLast? last)
  rw [begins_line_iff (by simp) feed return_, List.reverse_nil, List.nil_append, List.cons_prefix_cons,
    List.infix_cons_iff, List.infix_cons_iff, List.cons_prefix_cons, List.cons_prefix_cons,
    List.infix_concat_iff]
  simp [letter, last]

theorem toneless_iff (text : List Char) :
    (∀ line ∈ linesFrom [] (' ' :: ' ' :: (text ++ ['\n'])), lineTone? (String.ofList line) = none) ↔
      ¬ '\n' :: "query syntax error:".toList <:+: text ∧ ¬ '\n' :: "hint:".toList <:+: text := by
  rw [← begins_indented_iff message_head (by decide) (by decide) (by decide) text,
    ← begins_indented_iff hint_head (by decide) (by decide) (by decide) text]
  simp only [lineTone_none_iff, not_exists, not_and]
  constructor
  · intro all
    exact ⟨fun line member => (all line member).1, fun line member => (all line member).2⟩
  · rintro ⟨message, hint⟩ line member
    exact ⟨message line member, hint line member⟩

theorem highlighted_iff (error : QueryError) (query : String) :
    error.renderIn ⟨true⟩ query = error.highlighted query ↔
      ('\n' ∉ error.reason.toList ∧ error.reason.toList.getLast? ≠ some '\r') ∧
        ¬ mentions "\r\n" (query ++ "\n") ∧ ¬ mentions "\nquery syntax error:" query ∧
          ¬ mentions "\nhint:" query := by
  have ends : (' ' :: ' ' :: (query.toList ++ ['\n'])).getLast? = some '\n' := by
    rw [← List.cons_append, ← List.cons_append, List.getLast?_concat]
  have returns : ['\r', '\n'] <:+: ' ' :: ' ' :: (query.toList ++ ['\n']) ↔
      mentions "\r\n" (query ++ "\n") := by
    rw [mentions_iff, String.toList_append, List.infix_cons_iff, List.infix_cons_iff, List.cons_prefix_cons,
      List.cons_prefix_cons]
    simp
  have message : mentions "\nquery syntax error:" query ↔
      '\n' :: "query syntax error:".toList <:+: query.toList := mentions_iff
  have hint : mentions "\nhint:" query ↔ '\n' :: "hint:".toList <:+: query.toList := mentions_iff
  rw [message, hint, ← toneless_iff, ← returns, ← painted_self_iff ends, and_assoc]
  constructor
  · intro same
    have whole := whole_of_highlighted same
    exact ⟨whole, (highlighted_iff_whole whole).mp same⟩
  · rintro ⟨whole, kept⟩
    exact (highlighted_iff_whole whole).mpr kept

theorem shown_by_line (palette : Palette) (error : QueryError) (query : String) :
    ∃ first others, lines (error.reason ++ "\n  " ++ query ++ "\n") = first :: others ∧
      error.renderIn palette query =
        palette.paint .error ("query syntax error: " ++ first) ++ "\n" ++
          String.join (others.map fun line => paintLine palette line ++ "\n") ++
            error.caret query ++ adviceIn palette error := by
  have margin : "\n  ".toList = ['\n', ' ', ' '] := rfl
  have feed : "\n".toList = ['\n'] := rfl
  have inside : '\n' ∈ error.reason.toList ++ '\n' :: ' ' :: ' ' :: query.toList := by simp
  obtain ⟨first, rest, cut, whole⟩ := List.eq_append_cons_of_mem inside
  have block : (error.reason ++ "\n  " ++ query ++ "\n").toList = first ++ '\n' :: (rest ++ ['\n']) := by
    have ended := congrArg (· ++ ['\n']) cut
    simp only [List.append_assoc, List.cons_append] at ended
    simp only [String.toList_append, margin, feed, List.append_assoc, List.cons_append, List.nil_append, ended]
  refine ⟨_, _, by rw [lines, block, linesFrom_feed whole, List.append_nil, List.map_cons], ?_⟩
  rw [← String.toList_inj, toList_renderIn_cut palette whole cut, ← shown_pieces]
  simp only [String.toList_append, feed, painted, List.append_assoc, List.cons_append, List.nil_append]

theorem last_of_return_feed {text : List Char} (whole : '\n' ∉ text)
    (found : ['\r', '\n'] <:+: text ++ ['\n']) : text.getLast? = some '\r' := by
  rcases List.infix_concat_iff.mp found with ⟨front, same⟩ | inside
  · rw [List.append_cons, List.append_left_inj] at same
    rw [← same, List.getLast?_concat]
  · exact absurd (inside.subset (by simp)) whole

/-- The first line of a report is red, its caret has no color, and its advice is dim. Between them the other
lines of the reason and the query have colors of their own if they begin as a message or a hint does. So the
whole message is red and nothing else but the advice has a color just when the reason is one line, and no
line of the query behind the first begins so; carriage returns that end a line are lost. A query on one line
has such a report. -/
theorem colors_by_line (error : QueryError) (query : String) :
    (∃ first others, lines (error.reason ++ "\n  " ++ query ++ "\n") = first :: others ∧
      error.renderIn ⟨true⟩ query =
        paint ⟨true⟩ .error ("query syntax error: " ++ first) ++ "\n" ++
          String.join (others.map fun line => paintLine ⟨true⟩ line ++ "\n") ++
            error.caret query ++ adviceIn ⟨true⟩ error) ∧
    (error.renderIn ⟨true⟩ query = error.highlighted query ↔
      ('\n' ∉ error.reason.toList ∧ error.reason.toList.getLast? ≠ some '\r') ∧
        ¬ mentions "\r\n" (query ++ "\n") ∧ ¬ mentions "\nquery syntax error:" query ∧
          ¬ mentions "\nhint:" query) ∧
    ∀ limit, parse query limit = .error error → '\n' ∉ query.toList →
      query.toList.getLast? ≠ some '\r' → error.renderIn ⟨true⟩ query = error.highlighted query := by
  refine ⟨shown_by_line ⟨true⟩ error query, highlighted_iff error query, ?_⟩
  intro limit failed whole ends
  have apart (phrase : List Char) : ¬ '\n' :: phrase <:+: query.toList := fun found =>
    whole (found.subset List.mem_cons_self)
  have returns : ¬ mentions "\r\n" (query ++ "\n") := by
    rw [mentions_iff, String.toList_append]
    exact fun found => ends (last_of_return_feed whole found)
  rw [highlighted_iff]
  refine ⟨⟨reason_whole failed whole, reason_ends failed⟩, returns, ?_, ?_⟩
  · rw [mentions_iff]
    exact apart _
  · rw [mentions_iff]
    exact apart _

-- There is no advice against this error, but the second line of the query is dim as if it were one.
theorem query_line_dim :
    parse "]\nhint:" 64 = .error (.grammatical "expected a term, found ']'" (some 0)) ∧
      (grammatical "expected a term, found ']'" (some 0)).renderIn ⟨true⟩ "]\nhint:" =
        "\x1b[31mquery syntax error: expected a term, found ']'\x1b[0m\n  ]\n\x1b[2mhint:\x1b[0m\n  ^\n" ∧
      (grammatical "expected a term, found ']'" (some 0)).renderIn ⟨true⟩ "]\nhint:" ≠
        (grammatical "expected a term, found ']'" (some 0)).highlighted "]\nhint:" := by
  have read : tokenize "]\nhint:" =
      .ok [⟨.closeBracket, 0⟩, ⟨.word "\nhint", 1⟩, ⟨.colon, 6⟩, ⟨.stop, 7⟩] :=
    tokenize_of_found (by decide +kernel)
  refine ⟨?_, by decide +kernel, fun same => ?_⟩
  · rw [parse_of_tokens read]
    rfl
  · have begins : mentions "\nhint:" "]\nhint:" := by decide
    exact ((highlighted_iff _ _).mp same).2.2.2 begins

end Reports

end BoolQuery.QueryError
