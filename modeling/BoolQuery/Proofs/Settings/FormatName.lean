import BoolQuery.Settings

/-! The name of a format in the settings: which format is used for it, and when it is warned about. The
format is looked up in any letter case and the warning in lower case only, so they part ways for a name
with capital letters. -/
namespace BoolQuery

section Names

variable {text : String} {format : Format}

theorem Format.find_name_iff :
    [Format.tree, .json, .query].find? (fun format => format.name = text) = some format ↔
      text = format.name := by
  constructor
  · intro found
    have named := List.find?_some found
    exact (of_decide_eq_true named).symm
  · rintro rfl
    cases format <;> rfl

theorem Format.ofName?_iff : Format.ofName? text = some format ↔ text.toLower = format.name :=
  Format.find_name_iff

theorem Format.ofExactName?_iff : Format.ofExactName? text = some format ↔ text = format.name :=
  Format.find_name_iff

theorem Format.ofName?_none_iff :
    Format.ofName? text = none ↔ ∀ format : Format, text.toLower ≠ format.name := by
  simp only [Option.eq_none_iff_forall_ne_some, ne_eq, Format.ofName?_iff]

theorem Format.toLower_name (format : Format) : format.name.toLower = format.name := by
  cases format <;> decide +kernel

/-- A text is the name of a format with capital letters in it. -/
def Format.Capitalized (text : String) : Prop :=
  ∃ format : Format, text.toLower = format.name ∧ text ≠ format.name

theorem Format.ofExactName?_none_iff :
    Format.ofExactName? text = none ↔ Format.ofName? text = none ∨ Format.Capitalized text := by
  rw [Format.ofName?_none_iff]
  simp only [Format.Capitalized, Option.eq_none_iff_forall_ne_some, ne_eq, Format.ofExactName?_iff]
  constructor
  · intro unnamed
    by_cases capitalized : ∃ format : Format, text.toLower = format.name
    · obtain ⟨format, same⟩ := capitalized
      exact Or.inr ⟨format, same, unnamed format⟩
    · exact Or.inl fun format same => capitalized ⟨format, same⟩
  · rintro (unknown | ⟨other, same, apart⟩) format rfl
    · exact unknown format format.toLower_name
    · exact apart (by rw [← same, format.toLower_name])

end Names

namespace Settings

section Warnings

variable {settings : Settings} {name : String} {format : Format}

theorem unknownFormat_mem_warnings : .unknownFormat name ∈ settings.warnings ↔
    name = settings.format ∧ Format.ofExactName? settings.format = none := by
  unfold warnings
  simp [and_comm]

theorem chosenFormat_iff : settings.chosenFormat none = format ↔
    settings.format.toLower = format.name ∨
      Format.ofName? settings.format = none ∧ format = .tree := by
  rw [← Format.ofName?_iff]
  unfold chosenFormat
  cases Format.ofName? settings.format with
  | none => simp [eq_comm]
  | some found => simp

/-- A format in the settings is warned about when it is the name of none, so that the tree is used, and
also when it is the name of one with capital letters, which is used all the same. The warning and the use
disagree for such names only. -/
theorem format_warned_by_spelling (settings : Settings) :
    (∀ name, .unknownFormat name ∈ settings.warnings ↔ name = settings.format ∧
      (Format.ofName? settings.format = none ∨ Format.Capitalized settings.format)) ∧
    (Format.ofName? settings.format = none ↔ ∀ format : Format, settings.format.toLower ≠ format.name) ∧
    (∀ format, settings.chosenFormat none = format ↔ settings.format.toLower = format.name ∨
      Format.ofName? settings.format = none ∧ format = .tree) ∧
    (((∃ name, .unknownFormat name ∈ settings.warnings) ↔ Format.ofName? settings.format = none) ↔
      ¬ Format.Capitalized settings.format) := by
  have warned : ∀ name, .unknownFormat name ∈ settings.warnings ↔ name = settings.format ∧
      (Format.ofName? settings.format = none ∨ Format.Capitalized settings.format) := by
    intro name
    rw [unknownFormat_mem_warnings, Format.ofExactName?_none_iff]
  refine ⟨warned, Format.ofName?_none_iff, fun format => chosenFormat_iff, ?_⟩
  have some : (∃ name, .unknownFormat name ∈ settings.warnings) ↔
      Format.ofName? settings.format = none ∨ Format.Capitalized settings.format := by
    simp [warned]
  rw [some]
  constructor
  · rintro agree ⟨format, same, apart⟩
    have unknown := agree.mp (Or.inr ⟨format, same, apart⟩)
    exact Format.ofName?_none_iff.mp unknown format same
  · intro plain
    exact ⟨fun either => either.resolve_right plain, Or.inl⟩

/-- The name of the JSON format in capital letters is warned about as unknown, and JSON is printed. -/
theorem capitals_warned_and_used :
    .unknownFormat "JSON" ∈ warnings { format := "JSON" } ∧ Format.ofName? "JSON" = some .json ∧
      chosenFormat { format := "JSON" } none = .json ∧
      ¬ ((∃ name, .unknownFormat name ∈ warnings { format := "JSON" }) ↔
        Format.ofName? "JSON" = none) := by
  have warned : .unknownFormat "JSON" ∈ warnings { format := "JSON" } := by decide +kernel
  have known : Format.ofName? "JSON" = some .json := by decide +kernel
  refine ⟨warned, known, by decide +kernel, fun agree => ?_⟩
  rw [known] at agree
  cases agree.mp ⟨_, warned⟩

end Warnings
end Settings
end BoolQuery
