import BoolQuery.Proofs.Settings.Discovery

/-! What files give together: each setting by itself has the value of the first file that defines it. -/
namespace BoolQuery.Settings

open FileTree (Path)

section Keys

/-- A setting that files can define. -/
inductive Setting
  | maxDepth
  | format
  | color
  | level

namespace Setting

abbrev Value : Setting → Type
  | .maxDepth => Nat
  | .format | .level => String
  | .color => Bool

def default : (setting : Setting) → setting.Value
  | .maxDepth => (64 : Nat)
  | .format => "tree"
  | .color => true
  | .level => "warn"

def within (settings : Settings) : (setting : Setting) → setting.Value
  | .maxDepth => settings.maxDepth
  | .format => settings.format
  | .color => settings.color
  | .level => settings.level

/-- The value that a file defines for a setting. -/
def defined? (layer : Layer) : (setting : Setting) → Option setting.Value
  | .maxDepth => layer.maxDepth?
  | .format => layer.format?
  | .color => layer.color?
  | .level => layer.level?

end Setting

/-- A file has the section of a setting, and the section has its key. -/
inductive Gives (layer : Layer) : (setting : Setting) → setting.Value → Prop
  | maxDepth {part : ParserPart} {value : Nat} (present : layer.parser = some part)
    (key : part.maxDepth = some value) : Gives layer .maxDepth value
  | format {part : OutputPart} {value : String} (present : layer.output = some part)
    (key : part.format = some value) : Gives layer .format value
  | color {part : OutputPart} {value : Bool} (present : layer.output = some part)
    (key : part.color = some value) : Gives layer .color value
  | level {part : LogPart} {value : String} (present : layer.log = some part)
    (key : part.level = some value) : Gives layer .level value

variable {layer : Layer} {setting : Setting} {first second : Settings}

theorem gives_iff {value : setting.Value} :
    Gives layer setting value ↔ setting.defined? layer = some value := by
  constructor
  · intro gives
    cases gives with
    | maxDepth present key | format present key | color present key | level present key =>
      simpa [Setting.defined?, Layer.maxDepth?, Layer.format?, Layer.color?, Layer.level?, present]
  · intro defined
    cases setting with
    | maxDepth =>
      obtain ⟨part, present, key⟩ := Option.bind_eq_some_iff.mp defined
      exact .maxDepth present key
    | format =>
      obtain ⟨part, present, key⟩ := Option.bind_eq_some_iff.mp defined
      exact .format present key
    | color =>
      obtain ⟨part, present, key⟩ := Option.bind_eq_some_iff.mp defined
      exact .color present key
    | level =>
      obtain ⟨part, present, key⟩ := Option.bind_eq_some_iff.mp defined
      exact .level present key

theorem silent_iff : (∀ value, ¬ Gives layer setting value) ↔ setting.defined? layer = none := by
  simp only [gives_iff, Option.eq_none_iff_forall_ne_some, ne_eq]

theorem settings_ext (same : ∀ setting : Setting, setting.within first = setting.within second) :
    first = second := by
  cases first
  cases second
  rw [Settings.mk.injEq]
  exact ⟨same .maxDepth, same .format, same .color, same .level⟩

theorem within_ofLayers (layers : List Layer) (setting : Setting) :
    setting.within (ofLayers layers) = firstDefined setting.defined? setting.default layers := by
  rw [ofLayers_eq_firstDefined]
  cases setting <;> rfl

end Keys

section Merging

variable {setting : Setting} {layers front back : List Layer} {new : Layer}

/-- A setting has the value of the first file that defines it, or its default where no file does. -/
inductive FromFirst (setting : Setting) (layers : List Layer) : setting.Value → Prop
  | first {front back : List Layer} {layer : Layer} {value : setting.Value}
    (split : layers = front ++ layer :: back)
    (silent : ∀ earlier ∈ front, ∀ value, ¬ Gives earlier setting value)
    (gives : Gives layer setting value) : FromFirst setting layers value
  | default (silent : ∀ layer ∈ layers, ∀ value, ¬ Gives layer setting value) :
    FromFirst setting layers setting.default

theorem fromFirst_firstDefined (setting : Setting) (layers : List Layer) :
    FromFirst setting layers (firstDefined setting.defined? setting.default layers) := by
  unfold firstDefined
  cases found : layers.findSome? setting.defined? with
  | none =>
    exact .default fun layer member => silent_iff.mpr (List.findSome?_eq_none_iff.mp found layer member)
  | some value =>
    obtain ⟨front, layer, back, split, gives, silent⟩ := List.findSome?_eq_some_iff.mp found
    exact .first split (fun earlier member => silent_iff.mpr (silent earlier member)) (gives_iff.mpr gives)

/-- A file all of whose settings are defined in front of it is never asked. -/
theorem ofLayers_covered (covered : ∀ setting value, Gives new setting value →
      ∃ layer ∈ front, ∃ other, Gives layer setting other) :
    ofLayers (front ++ new :: back) = ofLayers (front ++ back) := by
  refine settings_ext fun setting => ?_
  rw [within_ofLayers, within_ofLayers, firstDefined, firstDefined, List.findSome?_append,
    List.findSome?_append, List.findSome?_cons]
  cases defined : setting.defined? new with
  | none => rfl
  -- The search for a setting of the new file has come to its end in front of it.
  | some value =>
    obtain ⟨layer, member, other, gives⟩ := covered setting value (gives_iff.mpr defined)
    have found : (front.findSome? setting.defined?).isSome := by
      rw [List.findSome?_isSome_iff]
      exact ⟨layer, member, by simp [gives_iff.mp gives]⟩
    obtain ⟨first, found⟩ := Option.isSome_iff_exists.mp found
    simp [found]

theorem merge_cons (path : Path) (layer : Layer) (rest : List (Path × Layer)) :
    merge ((path, layer) :: rest) = (layer.laidOver (merge rest).1, path :: (merge rest).2) := rfl

/-- What a file says about the root is nothing that files give. -/
theorem merge_roots (files : List (Path × Layer)) (roots : Nat → Option Bool) :
    merge (files.mapIdx fun place file => (file.1, { file.2 with root := roots place })) =
      merge files := by
  induction files generalizing roots with
  | nil => rfl
  | cons file rest ih =>
    have others := Prod.ext_iff.mp (ih fun place => roots (place + 1))
    rw [List.mapIdx_cons, merge_cons, merge_cons, others.1, others.2]
    rfl

theorem load_merge (tree : FileTree) (files : List Path) :
    (files.mapM fun file => (file, ·) <$> loadLayer tree file).map merge =
      (load tree files).map fun settings => (settings, files) := by
  induction files with
  | nil => rfl
  | cons file rest ih =>
    rw [load_cons, List.mapM_cons]
    cases loadLayer tree file with
    | error fault => rfl
    | ok layer =>
      -- On both sides the file is laid over what the rest comes to.
      let above (merged : Settings × List Path) := (layer.laidOver merged.1, file :: merged.2)
      calc
        _ = ((rest.mapM fun file => (file, ·) <$> loadLayer tree file).map merge).map above := by
          cases rest.mapM fun file => (file, ·) <$> loadLayer tree file <;> rfl
        _ = ((load tree rest).map fun settings => (settings, rest)).map above := by rw [ih]
        _ = _ := by cases load tree rest <;> rfl

/-- Each setting by itself has the value of the first file that defines it, and all files are told in
their order. What files say about the root is nothing to the settings, nor is a file that defines only
what is defined in front of it. The settings in force are merged in this way from the files that count. -/
theorem first_definition_counts (files : List (Path × Layer)) :
    (∀ setting : Setting,
      FromFirst setting (files.map Prod.snd) (setting.within (merge files).1)) ∧
    (merge files).2 = files.map Prod.fst ∧
    (∀ roots : Nat → Option Bool,
      merge (files.mapIdx fun place file => (file.1, { file.2 with root := roots place })) =
        merge files) ∧
    (∀ front back path layer, files = front ++ back →
      (∀ setting value, Gives layer setting value →
        ∃ file ∈ front, ∃ other, Gives file.2 setting other) →
      (merge (front ++ (path, layer) :: back)).1 = (merge files).1) ∧
    ∀ tree home folder, inForce tree home folder =
      ((discover tree home folder).mapM fun file => (file, ·) <$> loadLayer tree file).map merge := by
  refine ⟨fun setting => ?_, rfl, merge_roots files, ?_, fun tree home folder => ?_⟩
  · rw [merge, within_ofLayers]
    exact fromFirst_firstDefined setting _
  · rintro front back path layer rfl covered
    simp only [merge, List.map_append, List.map_cons]
    apply ofLayers_covered
    intro setting value gives
    obtain ⟨file, member, other, defined⟩ := covered setting value gives
    exact ⟨file.2, List.mem_map_of_mem member, other, defined⟩
  · rw [inForce_eq, load_merge]

/-- The inner file has an empty section and a section with one of two keys; the outer one fills the gaps.
A file that is put between them says that it is the outermost and limits what the inner one limits. -/
theorem gaps_are_filled :
    let inner : Path × Layer := (fileIn ["sub", "p"],
      { parser := some ⟨some 8⟩, output := some ⟨none, some false⟩, log := some ⟨none⟩ })
    let outer : Path × Layer := (fileIn ["p"],
      { parser := some ⟨some 32⟩, output := some ⟨some "json", some true⟩ })
    let between : Layer := { root := some true, parser := some ⟨some 5⟩ }
    merge [inner, outer] = (⟨8, "json", false, "warn"⟩, [fileIn ["sub", "p"], fileIn ["p"]]) ∧
    (∀ setting value, Gives between setting value →
      ∃ file ∈ [inner], ∃ other, Gives file.2 setting other) ∧
    (merge [inner, (fileIn ["between", "p"], between), outer]).1 = ⟨8, "json", false, "warn"⟩ := by
  intro inner outer between
  have covered : ∀ setting value, Gives between setting value →
      ∃ file ∈ [inner], ∃ other, Gives file.2 setting other := by
    intro setting value gives
    cases gives with
    | maxDepth present key => exact ⟨inner, List.mem_cons_self, _, .maxDepth rfl rfl⟩
    | format present key | color present key | level present key => cases present
  obtain ⟨-, -, -, unchanged, -⟩ := first_definition_counts [inner, outer]
  exact ⟨rfl, covered, unchanged [inner] [outer] _ between rfl covered⟩

end Merging
end BoolQuery.Settings
