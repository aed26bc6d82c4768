import BoolQuery.Proofs.Toml.Lines
import BoolQuery.Settings.Layer

/-! The settings in force are written as a file that defines each of them: read again, it gives the same
settings. -/
namespace BoolQuery.Settings

open Toml (Document Entries)
open Toml.Reader (Leads outside leads_append leads_emptyLine leads_entry leads_header writes_bool
  writes_nat writes_string)

section Writing

def rootEntries (root : Option Bool) : Entries := (root.map fun value => ("root", .boolean value)).toList

-- The text, cut into its sections and these into lines.
theorem toToml_sections (settings : Settings) : settings.toToml =
    ("[" ++ "parser" ++ "]\n" ++ ("max_depth" ++ " = " ++ (toString settings.maxDepth ++ "\n")) ++ "\n") ++
    ("[" ++ "output" ++ "]\n" ++ ("format" ++ " = " ++ (Toml.stringText settings.format ++ "\n")) ++
      ("color" ++ " = " ++ (toString settings.color ++ "\n")) ++ "\n") ++
    ("[" ++ "log" ++ "]\n" ++ ("level" ++ " = " ++ (Toml.stringText settings.level ++ "\n"))) := by
  have parser : "[parser]\nmax_depth = " = "[" ++ "parser" ++ "]\n" ++ "max_depth" ++ " = " := by decide
  have output : "\n\n[output]\nformat = " =
      "\n" ++ "\n" ++ "[" ++ "output" ++ "]\n" ++ "format" ++ " = " := by decide
  have color : "\ncolor = " = "\n" ++ "color" ++ " = " := by decide
  have log : "\n\n[log]\nlevel = " = "\n" ++ "\n" ++ "[" ++ "log" ++ "]\n" ++ "level" ++ " = " := by
    decide
  delta toToml
  simp only [-String.reduceAppend, parser, output, color, log, String.append_assoc]

variable (settings : Settings) (root : Option Bool) (target : List String)

def parserEntries : Entries :=
  ("parser", .table .header [("max_depth", .integer settings.maxDepth)]) :: rootEntries root

theorem leads_parserSection :
    Leads (outside ⟨rootEntries root, []⟩ target .lineStart)
      ("[" ++ "parser" ++ "]\n" ++ ("max_depth" ++ " = " ++ (toString settings.maxDepth ++ "\n")))
      (outside ⟨parserEntries settings root, ["parser"]⟩ ["max_depth"] .lineStart) := by
  have header : Leads (outside ⟨rootEntries root, []⟩ target .lineStart) ("[" ++ "parser" ++ "]\n")
      (outside ⟨("parser", .table .header []) :: rootEntries root, ["parser"]⟩ target .lineStart) :=
    leads_header (by decide) (by decide) (by cases root <;> rfl)
  exact leads_append header
    (leads_entry (writes_nat settings.maxDepth) (by decide) (by decide) (by cases root <;> rfl))

/-- The output settings, in the order of their names. -/
def outputFields : Entries :=
  [("color", .boolean settings.color), ("format", .string settings.format)]

def outputEntries (entries : Entries) : Entries :=
  ("output", .table .header entries) :: parserEntries settings root

theorem leads_outputSection :
    Leads (outside ⟨parserEntries settings root, ["parser"]⟩ target .lineStart)
      ("[" ++ "output" ++ "]\n" ++ ("format" ++ " = " ++ (Toml.stringText settings.format ++ "\n")) ++
        ("color" ++ " = " ++ (toString settings.color ++ "\n")))
      (outside ⟨outputEntries settings root (outputFields settings), ["output"]⟩ ["color"] .lineStart) := by
  have header : Leads (outside ⟨parserEntries settings root, ["parser"]⟩ target .lineStart)
      ("[" ++ "output" ++ "]\n")
      (outside ⟨outputEntries settings root [], ["output"]⟩ target .lineStart) :=
    leads_header (by decide) (by decide) (by cases root <;> rfl)
  have format : Leads (outside ⟨outputEntries settings root [], ["output"]⟩ target .lineStart)
      ("format" ++ " = " ++ (Toml.stringText settings.format ++ "\n"))
      (outside ⟨outputEntries settings root [("format", .string settings.format)], ["output"]⟩
        ["format"] .lineStart) :=
    leads_entry (writes_string settings.format) (by decide) (by decide) (by cases root <;> rfl)
  exact leads_append (leads_append header format)
    (leads_entry (writes_bool settings.color) (by decide) (by decide) (by cases root <;> rfl))

def fileEntries : Entries :=
  ("log", .table .header [("level", .string settings.level)]) ::
    outputEntries settings root (outputFields settings)

theorem leads_logSection :
    Leads
      (outside ⟨outputEntries settings root (outputFields settings), ["output"]⟩ target .lineStart)
      ("[" ++ "log" ++ "]\n" ++ ("level" ++ " = " ++ (Toml.stringText settings.level ++ "\n")))
      (outside ⟨fileEntries settings root, ["log"]⟩ ["level"] .lineStart) := by
  have header : Leads
      (outside ⟨outputEntries settings root (outputFields settings), ["output"]⟩ target .lineStart)
      ("[" ++ "log" ++ "]\n")
      (outside
        ⟨("log", .table .header []) :: outputEntries settings root (outputFields settings), ["log"]⟩
        target .lineStart) :=
    leads_header (by decide) (by decide) (by cases root <;> rfl)
  exact leads_append header
    (leads_entry (writes_string settings.level) (by decide) (by decide) (by cases root <;> rfl))

/-- The written settings fill a document section by section. -/
theorem leads_toToml :
    Leads (outside ⟨rootEntries root, []⟩ target .lineStart) settings.toToml
      (outside ⟨fileEntries settings root, ["log"]⟩ ["level"] .lineStart) := by
  have parser := leads_append (leads_parserSection settings root target) leads_emptyLine
  have output := leads_append (leads_outputSection settings root ["max_depth"]) leads_emptyLine
  rw [toToml_sections]
  exact leads_append (leads_append parser output) (leads_logSection settings root ["color"])

/-- A line about the root stands in front. -/
theorem leads_root (value : Bool) :
    Leads {} ("root" ++ " = " ++ (toString value ++ "\n"))
      (outside ⟨rootEntries (some value), []⟩ ["root"] .lineStart) := by
  have start : ({} : Toml.Reader.State) = outside {} [] .lineStart := rfl
  rw [start]
  exact leads_entry (writes_bool value) (by decide) (by decide) rfl

end Writing

section Reading

variable {settings : Settings} {document : Document} {target : List String} {text : String}

-- A byte order mark could not have been read.
theorem dropMark_of_leads {last : Toml.Reader.State} (leads : Leads {} text last) :
    Toml.dropMark text.toList = text.toList := by
  rw [Leads] at leads
  unfold Toml.dropMark
  split
  · next marked =>
    rw [marked] at leads
    cases leads
  · rfl

theorem read_of_leads (leads : Leads {} text (outside document target .lineStart)) :
    Toml.read? text = some document.entries := by
  have ends : Toml.Reader.State.run {} text.toList = some (outside document target .lineStart) := by
    rw [Leads] at leads
    rw [Toml.Reader.run_eq, leads]
    rfl
  rw [Toml.read?, dropMark_of_leads leads, ends]
  rfl

theorem natural_nat {n : Nat} (fits : n < 2 ^ 64) : Layer.natural (.integer n) = .ok n := by
  have room : 0 ≤ (n : Int) ∧ (n : Int) < (Width.full64 : Nat) := ⟨by omega, Int.ofNat_lt.mpr fits⟩
  rw [Layer.natural, if_pos room]
  rfl

theorem readEntries_cons {α β : Type} {keys : List (Layer.Key α)} {part : α} {name : String}
    {value : Toml} {read : Toml → Except Layer.Fault β} {keep : β → α → α} {result : β}
    (known : keys.find? (fun key => key.name = name) = some (Layer.key name read keep))
    (taken : read value = .ok result) (rest : Entries) :
    Layer.readEntries keys part ((name, value) :: rest) =
      Layer.readEntries keys (keep result part) rest := by
  rw [Layer.readEntries, known]
  simp only [Layer.key, taken]
  rfl

theorem readSection_parserKeys {n : Nat} (fits : n < 2 ^ 64) (title : String) :
    Layer.readSection title Layer.parserKeys {} (.table .header [("max_depth", .integer n)]) =
      .ok ⟨some n⟩ := by
  have known : Layer.parserKeys.find? (fun key => key.name = "max_depth") =
      some (Layer.key "max_depth" Layer.natural fun value part => { part with maxDepth := some value }) :=
    rfl
  have taken := natural_nat fits
  rw [Layer.readSection, readEntries_cons known taken, Layer.readEntries]

theorem readSection_outputKeys (title format : String) (color : Bool) :
    Layer.readSection title Layer.outputKeys {}
      (.table .header [("color", .boolean color), ("format", .string format)]) =
      .ok ⟨some format, some color⟩ := rfl

theorem readSection_logKeys (title level : String) :
    Layer.readSection title Layer.logKeys {} (.table .header [("level", .string level)]) =
      .ok ⟨some level⟩ := rfl

/-- The entries of the written settings give each setting its value. -/
theorem readEntries_fileEntries (fits : settings.maxDepth < 2 ^ 64) (root : Option Bool) :
    Layer.readEntries Layer.keys {} (fileEntries settings root) =
      .ok ⟨root, some ⟨some settings.maxDepth⟩, some ⟨some settings.format, some settings.color⟩,
        some ⟨some settings.level⟩⟩ := by
  rw [fileEntries, outputEntries, outputFields, parserEntries, readEntries_cons rfl (readSection_logKeys _ _),
    readEntries_cons rfl (readSection_outputKeys _ _ _), readEntries_cons rfl (readSection_parserKeys fits _)]
  cases root <;> rfl

/-- The settings in force, written as a file, define each of the settings and nothing about the root;
the file alone gives the same settings, and a line about the root in front of it adds just that. -/
theorem settings_reload (settings : Settings) (fits : settings.maxDepth < 2 ^ 64) :
    ∃ layer, Layer.read settings.toToml = .ok layer ∧
      layer.root = none ∧
      layer.parser = some ⟨some settings.maxDepth⟩ ∧
      layer.output = some ⟨some settings.format, some settings.color⟩ ∧
      layer.log = some ⟨some settings.level⟩ ∧
      ofLayers [layer] = settings ∧
      Layer.read ("root = true\n" ++ settings.toToml) = .ok { layer with root := some true } := by
  have alone := read_of_leads (leads_toToml settings none [])
  have rooted := read_of_leads (leads_append (leads_root true) (leads_toToml settings (some true) ["root"]))
  refine ⟨⟨none, some ⟨some settings.maxDepth⟩, some ⟨some settings.format, some settings.color⟩,
    some ⟨some settings.level⟩⟩, ?_, rfl, rfl, rfl, rfl, rfl, ?_⟩
  · rw [Layer.read, alone]
    exact readEntries_fileEntries fits none
  · have line : "root = true\n" = "root" ++ " = " ++ (toString true ++ "\n") := by decide
    rw [Layer.read, line, rooted]
    exact readEntries_fileEntries fits (some true)

/-- A limit of all 64 bits, with quotes, a line break, a backslash and a control character in the
texts. -/
theorem awkward_settings_reload :
    ∃ layer, Layer.read (toToml ⟨18446744073709551615, "\n'''\x22\x22\x22", false, "\\\x01'"⟩) = .ok layer ∧
      ofLayers [layer] = ⟨18446744073709551615, "\n'''\x22\x22\x22", false, "\\\x01'"⟩ := by
  obtain ⟨layer, read, -, -, -, -, same, -⟩ :=
    settings_reload ⟨18446744073709551615, "\n'''\x22\x22\x22", false, "\\\x01'"⟩ (by decide)
  exact ⟨layer, read, same⟩

end Reading

end BoolQuery.Settings
