import BoolQuery.Proofs.Settings.Reload
import BoolQuery.Proofs.Text.Lines
import BoolQuery.Settings.Template
import Mathlib.Data.List.Forall2

/-! A text with all of its lines as comments defines no setting, and still shows every line. -/
namespace BoolQuery.Settings.Template

open Toml.Reader (Leads isText leads_append leads_comment leads_emptyLine outside)

section Lines

/-- The control characters of a text are tabs and line breaks, which are a line feed or a carriage
return and a line feed. -/
def breaksOnly : List Char → Bool
  | [] => true
  | c :: rest =>
    (isText c || c = '\n' || (c = '\r' && rest.head? = some '\n')) && breaksOnly rest

-- A carriage return at the end of the line so far stands in front of a line feed.
theorem linesFrom_plain {line rest : List Char} (before : (Text.dropReturn line).all isText)
    (returned : line.head? = some '\r' → rest.head? = some '\n') (plain : breaksOnly rest) :
    ∀ found ∈ Text.linesFrom line rest, found.all isText := by
  induction rest generalizing line with
  | nil =>
    have whole : Text.dropReturn line = line := Text.dropReturn_kept fun last => by cases returned last
    intro found member
    unfold Text.linesFrom at member
    split at member
    · cases member
    · obtain rfl := List.mem_singleton.mp member
      rwa [List.all_reverse, ← whole]
  | cons c rest ih =>
    rw [breaksOnly, Bool.and_eq_true] at plain
    obtain ⟨first, others⟩ := plain
    intro found member
    unfold Text.linesFrom at member
    split at member
    · rcases List.mem_cons.mp member with rfl | later
      · rwa [List.all_reverse]
      · exact ih rfl (fun none => by cases none) others found later
    · next inside =>
      have whole : Text.dropReturn line = line :=
        Text.dropReturn_kept fun last => inside (Option.some.inj (returned last))
      rw [whole] at before
      by_cases ends : c = '\r'
      · subst ends
        have feed : rest.head? = some '\n' := by simpa [isText] using first
        have dropped : (Text.dropReturn ('\r' :: line)).all isText := before
        exact ih dropped (fun _ => feed) others found member
      · have shown : isText c := by simpa [inside, ends] using first
        have kept : Text.dropReturn (c :: line) = c :: line := Text.dropReturn_kept (by simpa using ends)
        exact ih (by simp [kept, shown, before]) (by simp [ends]) others found member

theorem lines_plain {text : String} (plain : breaksOnly text.toList) :
    ∀ line ∈ Text.lines text, line.toList.all isText := by
  intro line member
  obtain ⟨found, listed, rfl⟩ := List.mem_map.mp member
  rw [String.toList_ofList]
  exact linesFrom_plain rfl (fun none => by cases none) plain found listed

theorem lines_whole (text : String) : ∀ line ∈ Text.lines text, '\n' ∉ line.toList := by
  intro line member
  obtain ⟨found, listed, rfl⟩ := List.mem_map.mp member
  rw [String.toList_ofList]
  exact Text.feed_not_mem_linesFrom List.not_mem_nil listed

end Lines

section Comments

variable {document : Toml.Document} {target : List String}

theorem leads_commentLine {line : String} (plain : line.toList.all isText) :
    Leads (outside document target .lineStart) (commentLine line ++ "\n")
      (outside document target .lineStart) := by
  unfold commentLine
  by_cases empty : line = ""
  · subst empty
    exact leads_emptyLine
  by_cases marked : Text.beginsWith "#" line
  · -- The line brings its own mark.
    have first : ['#'] <+: line.toList := List.isPrefixOf_iff_prefix.mp marked
    obtain ⟨rest, spelled⟩ := first
    have whole : line = "#" ++ String.ofList rest := by
      apply String.toList_inj.mp
      simp [← spelled]
    have behind : (String.ofList rest).toList.all isText := by
      rw [← spelled, List.all_append, Bool.and_eq_true] at plain
      simpa using plain.2
    rw [if_pos (by simp [marked]), whole]
    exact leads_comment behind
  · have mark : "# " = "#" ++ " " := by decide
    have behind : (" " ++ line).toList.all isText := by
      simpa [isText] using plain
    rw [if_neg (by simp [empty, marked]), mark, @String.append_assoc "#"]
    exact leads_comment behind

theorem leads_commentLines {lines : List String} (plain : ∀ line ∈ lines, line.toList.all isText) :
    Leads (outside document target .lineStart)
      (String.join (lines.map fun line => commentLine line ++ "\n"))
      (outside document target .lineStart) := by
  induction lines with
  | nil => rfl
  | cons line rest ih =>
    rw [List.map_cons, String.join_cons]
    exact leads_append (leads_commentLine (plain line List.mem_cons_self))
      (ih fun other member => plain other (List.mem_cons_of_mem line member))

/-- If no line has a control character, the comments are a settings file that says nothing. -/
theorem read_comment {text : String} (plain : ∀ line ∈ Text.lines text, line.toList.all isText) :
    Layer.read (comment text) = .ok {} := by
  have leads : Leads {} (comment text) (outside {} [] .lineStart) := leads_commentLines plain
  rw [Layer.read, read_of_leads leads]
  rfl

theorem read_forProject : Layer.read forProject = .ok {} := by
  refine read_comment (lines_plain ?_)
  unfold projectSettings
  rw [String.toList_ofList]
  decide +kernel

theorem read_forUser : Layer.read forUser = .ok {} := by
  refine read_comment (lines_plain ?_)
  unfold userSettings
  rw [String.toList_ofList]
  decide +kernel

end Comments

section Inertness

/-- A line that shows another one and that is, as part of a settings file, a comment or nothing. -/
def Shows (line original : String) : Prop :=
  (line = "" ∨ Text.beginsWith "#" line) ∧ original.toList <:+ line.toList

theorem commentLine_shows (line : String) : Shows (commentLine line) line := by
  unfold commentLine
  split
  · next kept =>
    refine ⟨?_, List.suffix_rfl⟩
    simpa using kept
  · have mark : ("# " ++ line).toList = '#' :: ' ' :: line.toList := by
      rw [String.toList_append]
      rfl
    refine ⟨Or.inr (Text.beginsWith_iff.mpr ?_), ?_⟩
    · rw [mark]
      exact ⟨' ' :: line.toList, rfl⟩
    · rw [mark]
      exact ⟨['#', ' '], rfl⟩

theorem commentLine_whole {line : String} (whole : '\n' ∉ line.toList) :
    '\n' ∉ (commentLine line).toList := by
  unfold commentLine
  split
  · exact whole
  · rw [String.toList_append, List.mem_append, not_or]
    exact ⟨by decide, whole⟩

/-- A text with its lines as comments has one line for each of them, empty or a comment, with the line
at its end. If the text has no control characters but tabs and line breaks, those comments are a
settings file without a mark for the outermost file and without a section. -/
theorem comments_are_inert (text : String) :
    (∃ commented : List String, comment text = String.join (commented.map (· ++ "\n")) ∧
      (∀ line ∈ commented, '\n' ∉ line.toList) ∧
      List.Forall₂ Shows commented (Text.lines text)) ∧
    (breaksOnly text.toList → Layer.read (comment text) = .ok ⟨none, none, none, none⟩) := by
  refine ⟨⟨(Text.lines text).map commentLine, ?_, ?_, ?_⟩, fun plain => read_comment (lines_plain plain)⟩
  · rw [comment, List.map_map]
    rfl
  · rw [List.forall_mem_map]
    exact fun line member => commentLine_whole (lines_whole text line member)
  · rw [List.forall₂_map_left_iff]
    exact List.forall₂_same.mpr fun line _ => commentLine_shows line

-- A header, a line of blanks, a string that is left open, and a comment; some lines end with returns.
theorem awkward_lines_inert :
    breaksOnly "[log]\r\n \t\nlevel = \"\"\"\r\n\n#]".toList = true ∧
      comment "[log]\r\n \t\nlevel = \"\"\"\r\n\n#]" =
        "# [log]\n#  \t\n# level = \"\"\"\n\n#]\n" ∧
      Layer.read (comment "[log]\r\n \t\nlevel = \"\"\"\r\n\n#]") = .ok ⟨none, none, none, none⟩ := by
  have plain : breaksOnly "[log]\r\n \t\nlevel = \"\"\"\r\n\n#]".toList = true := by decide +kernel
  exact ⟨plain, by decide +kernel, (comments_are_inert _).2 plain⟩

end Inertness

end BoolQuery.Settings.Template
