import BoolQuery.Proofs.Palette.Strip
import BoolQuery.Proofs.QueryError.Report

/-! A report in color as the pieces it is put together from: each of its lines in the tone that its
beginning gives it, and a line feed behind each. -/
namespace BoolQuery.QueryError
open Text Palette

def lineTone? (line : String) : Option Tone :=
  if beginsWith "query syntax error:" line then some .error
  else if beginsWith "hint:" line then some .dim
  else none

/-- Lines in their tones, with a line feed behind each. -/
def pieces (lines : List (List Char)) : List (Option Tone × String) :=
  lines.flatMap fun line => [(lineTone? (String.ofList line), String.ofList line), (none, "\n")]

variable (palette : Palette)

theorem paintLine_eq (line : String) : paintLine palette line = palette.inTone (lineTone? line) line := by
  unfold paintLine lineTone?
  split
  · rfl
  split <;> rfl

theorem shown_pieces_cons (line : List Char) (rest : List (List Char)) :
    palette.shown (pieces (line :: rest)) =
      paintLine palette (String.ofList line) ++ "\n" ++ palette.shown (pieces rest) := by
  have split : pieces (line :: rest) =
      (lineTone? (String.ofList line), String.ofList line) :: (none, "\n") :: pieces rest := rfl
  rw [split, shown_cons, shown_cons, ← paintLine_eq, String.append_assoc]
  rfl

theorem shown_pieces (lines : List (List Char)) :
    palette.shown (pieces lines) =
      String.join ((lines.map String.ofList).map fun line => paintLine palette line ++ "\n") := by
  induction lines with
  | nil => rfl
  | cons line rest ih => rw [shown_pieces_cons, ih, List.map_cons, List.map_cons, String.join_cons]

theorem foldl_paintLine (lines : List (List Char)) (out : String) :
    (lines.map String.ofList).foldl (fun out line => (out ++ paintLine palette line).push '\n') out =
      out ++ palette.shown (pieces lines) := by
  induction lines generalizing out with
  | nil => exact String.append_empty.symm
  | cons line rest ih =>
    rw [List.map_cons, List.foldl_cons, ih, shown_pieces_cons, String.push_eq_append, String.append_assoc,
      String.append_assoc, String.append_assoc]
    rfl

theorem renderIn_shown (error : QueryError) (query : String) :
    error.renderIn palette query = palette.shown (pieces (linesFrom [] (error.render query).toList)) := by
  rw [renderIn, lines, foldl_paintLine, String.empty_append]

/-- Without colors the lines are put together as they are. -/
theorem toList_shown_off (lines : List (List Char)) :
    (shown ⟨false⟩ (pieces lines)).toList = joinLines lines := by
  induction lines with
  | nil => rfl
  | cons line rest ih =>
    rw [shown_pieces_cons, paintLine_eq, inTone_off, String.toList_append, ih, String.toList_append,
      String.toList_ofList]
    rfl

end BoolQuery.QueryError
