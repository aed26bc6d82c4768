import BoolQuery.Proofs.QueryError.Painted

/-! Colors taken out again. Where no text has an escape of its own, colored output without its control
sequences is the output without colors. -/
namespace BoolQuery.QueryError
open Text Palette

section Stripped

variable {error : QueryError} {query : String}

theorem clean_render (reason : '\x1b' ∉ error.reason.toList) (text : '\x1b' ∉ query.toList) :
    '\x1b' ∉ (error.render query).toList := by
  have below : '\x1b' ∉ (error.caret query).toList ++ error.advice.toList :=
    not_mem_below (by decide) (by decide)
  rw [List.mem_append, not_or] at below
  rw [toList_render]
  simp [reason, text, below]

theorem clean_pieces {text : List Char} (clean : '\x1b' ∉ text) :
    ∀ piece ∈ pieces (linesFrom [] text), '\x1b' ∉ piece.2.toList := by
  intro piece member
  obtain ⟨line, listed, either⟩ := List.mem_flatMap.mp member
  simp only [List.mem_cons, List.not_mem_nil, or_false] at either
  rcases either with rfl | rfl
  · rw [String.toList_ofList]
    intro inside
    exact clean ((mem_linesFrom listed _ inside).resolve_left List.not_mem_nil)
  · decide

/-- Without its control sequences colored output is the output without colors: texts in any tones, one
behind the other, are the texts, and a report in color is the report without. -/
theorem strip_colors (palette : Palette) :
    (∀ pieces : List (Option Tone × String), (∀ piece ∈ pieces, '\x1b' ∉ piece.2.toList) →
      strip (String.join (pieces.map fun piece => palette.inTone piece.1 piece.2)) =
        String.join (pieces.map Prod.snd)) ∧
    ∀ error query, '\x1b' ∉ (reason error).toList → '\x1b' ∉ query.toList →
      strip (error.renderIn palette query) = error.renderIn ⟨false⟩ query := by
  constructor
  · intro pieces clean
    rw [← shown_off]
    exact strip_shown palette clean
  · intro error query reason text
    rw [renderIn_shown, renderIn_shown]
    exact strip_shown palette (clean_pieces (clean_render reason text))

-- The texts look like parts of the sequences around them.
theorem strip_texts_like_sequences :
    strip (String.join ([(some Tone.error, "[0m"), (none, "[31m"), (some .dim, "1;2m")].map
      fun piece => inTone ⟨true⟩ piece.1 piece.2)) = "[0m[31m1;2m" ∧
    strip ((grammatical "expected a term, found ']'" (some 0)).renderIn ⟨true⟩ "]\nhint:") =
      (grammatical "expected a term, found ']'" (some 0)).renderIn ⟨false⟩ "]\nhint:" := by
  constructor
  · exact (strip_colors ⟨true⟩).1 [(some Tone.error, "[0m"), (none, "[31m"), (some .dim, "1;2m")] (by decide)
  · exact (strip_colors ⟨true⟩).2 _ _ (by decide) (by decide)

end Stripped

end BoolQuery.QueryError
