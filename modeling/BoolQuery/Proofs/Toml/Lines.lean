import BoolQuery.Proofs.Toml.Quoted
import BoolQuery.Proofs.Toml.Scalar

/-! The lines of a settings file, one by one: a header, a key with a value, an empty line. Each leads the
reader from the start of a line to the start of the next one. -/
namespace BoolQuery.Toml.Reader

section Leading

/-- The state behind a character; what is over in front of it is completed first. -/
def State.takes (state : State) (c : Char) : Option State :=
  (state.settle (some c)).bind fun settled => settled.step c

/-- The text leads the reader from one state to another. -/
def Leads (start : State) (text : String) (next : State) : Prop :=
  text.toList.foldlM State.takes start = some next

variable {start state next : State} {first second : String} {c : Char}

theorem leads_append (leads : Leads start first state) (onward : Leads state second next) :
    Leads start (first ++ second) next := by
  rw [Leads] at leads onward
  rw [Leads, String.toList_append, List.foldlM_append, leads]
  exact onward

theorem run_eq (text : List Char) :
    state.run text = (text.foldlM State.takes state).bind fun last => last.settle none := by
  induction text generalizing state with
  | nil => rfl
  | cons c rest ih =>
    rw [State.run, List.foldlM_cons, State.takes]
    cases state.settle (some c) with
    | none => rfl
    | some settled =>
      simp only [Option.bind_eq_bind, Option.bind_some]
      cases settled.step c with
      | none => rfl
      | some next => exact ih

end Leading

section Words

variable {document : Document} {target : List String} {c : Char} {characters : List Char}

def outside (document : Document) (target : List String) (mode : Mode) : State :=
  ⟨document, [], target, mode⟩

/-- Characters that are collected in a mode. -/
theorem reads_collected (document : Document) (target : List String) {collect : String → Mode}
    {good : Char → Bool}
    (step : ∀ text c, good c → (outside document target (collect text)).takes c =
      some (outside document target (collect (text.push c))))
    (all : characters.all good) (text : String) :
    characters.foldlM State.takes (outside document target (collect text)) =
      some (outside document target (collect (text ++ String.ofList characters))) := by
  induction characters generalizing text with
  | nil => simp
  | cons c rest ih =>
    rw [List.all_cons, Bool.and_eq_true] at all
    rw [List.foldlM_cons, step text c all.1, ← push_append_ofList]
    exact ih all.2 _

theorem takes_bareKey (role : Role) (path : List String) (text : String) (c : Char)
    (bare : isBareKey c) : (outside document target (.bareKey role path text)).takes c =
      some (outside document target (.bareKey role path (text.push c))) := by
  simp [State.takes, outside, State.settle, State.step, bare, State.at]

theorem takes_scalar (text : String) (c : Char) (goesOn : !endsScalar c) :
    (outside document target (.scalar text)).takes c =
      some (outside document target (.scalar (text.push c))) := by
  have more : endsScalar c = false := by simpa using goesOn
  simp [State.takes, outside, State.settle, State.step, more, State.at]

theorem ne_of_good {good : Char → Bool} (is : good c) (mark : Char) (other : good mark = false) :
    c ≠ mark := by
  rintro rfl
  rw [is] at other
  cases other

theorem isBlank_bare (bare : isBareKey c) : isBlank c = false := by
  simp [isBlank, ne_of_good bare ' ' rfl, ne_of_good bare '\t' rfl]

theorem stepKeyPart_bare {role : Role} {path : List String} {mode : Mode} (bare : isBareKey c) :
    (outside document target mode).stepKeyPart role path c =
      some (outside document target (.bareKey role path ("".push c))) := by
  simp [State.stepKeyPart, isBlank_bare bare, bare, State.at, outside]

theorem takes_lineStart (bare : isBareKey c) :
    (outside document target .lineStart).takes c =
      some (outside document target (.bareKey .line [] ("".push c))) := by
  have named : (outside document target .lineStart).stepKeyPart .line [] c =
      some (outside document target (.bareKey .line [] ("".push c))) := stepKeyPart_bare bare
  simp only [State.takes, State.settle, outside, Option.bind_some, State.step, State.stepSpace,
    isBlank_bare bare, ne_of_good bare '\n' rfl, ne_of_good bare '\r' rfl, ne_of_good bare '#' rfl,
    ne_of_good bare '[' rfl] at named ⊢
  exact named

theorem takes_headerOpen (bare : isBareKey c) :
    (outside document target .headerOpen).takes c =
      some (outside document target (.bareKey .header [] ("".push c))) := by
  have named : (outside document target .headerOpen).stepKeyPart .header [] c =
      some (outside document target (.bareKey .header [] ("".push c))) := stepKeyPart_bare bare
  simp only [State.takes, State.settle, outside, Option.bind_some, State.step,
    ne_of_good bare '[' rfl] at named ⊢
  exact named

theorem leads_name {start : State} {role : Role} {name : String}
    (first : ∀ c, isBareKey c →
      start.takes c = some (outside document target (.bareKey role [] ("".push c))))
    (named : name ≠ "") (bare : name.toList.all isBareKey) :
    Leads start name (outside document target (.bareKey role [] name)) := by
  have spelled : name = String.ofList name.toList := by simp
  cases characters : name.toList with
  | nil => exact absurd (String.toList_eq_nil_iff.mp characters) named
  | cons c rest =>
    rw [characters, List.all_cons, Bool.and_eq_true] at bare
    rw [Leads, characters, List.foldlM_cons, first c bare.1]
    have collected := reads_collected document target (takes_bareKey role []) bare.2 ("".push c)
    rw [push_append_ofList, String.empty_append, ← characters, ← spelled] at collected
    exact collected

end Words

section Lines

variable {document filled : Document} {target : List String} {name : String}

/-- A header opens its table. -/
theorem leads_header (named : name ≠ "") (bare : name.toList.all isBareKey)
    (opens : document.openTable [name] = some filled) :
    Leads (outside document target .lineStart) ("[" ++ name ++ "]\n")
      (outside filled target .lineStart) := by
  have bracket : Leads (outside document target .lineStart) "[" (outside document target .headerOpen) := rfl
  have inside := leads_append bracket (leads_name (fun _ => takes_headerOpen) named bare)
  have closed : Leads (outside document target (.bareKey .header [] name)) "]\n"
      (outside filled target .lineStart) := by
    have taken : (outside document target (.bareKey .header [] name)).takes ']' =
        some (outside filled target .lineEnd) := by
      simp [State.takes, outside, State.settle, State.step, isBareKey, State.stepKeyEnd, isBlank, opens]
    have spelled : "]\n".toList = [']', '\n'] := by decide
    rw [Leads, spelled, List.foldlM_cons, taken]
    rfl
  exact leads_append inside closed

/-- A key goes in front of its value. -/
theorem leads_key (named : name ≠ "") (bare : name.toList.all isBareKey) :
    Leads (outside document target .lineStart) (name ++ " = ") (outside document [name] .value) :=
  leads_append (leads_name (fun _ => takes_lineStart) named bare) rfl

theorem leads_emptyLine :
    Leads (outside document target .lineStart) "\n" (outside document target .lineStart) := rfl

theorem takes_comment (c : Char) (plain : isText c) :
    (outside document target (.comment .line)).takes c =
      some (outside document target (.comment .line)) := by
  simp [State.takes, outside, State.settle, State.step, ne_of_good plain '\n' rfl,
    ne_of_good plain '\r' rfl, plain]

/-- A comment is passed over up to the start of the next line. -/
theorem leads_comment {line : String} (plain : line.toList.all isText) :
    Leads (outside document target .lineStart) ("#" ++ line ++ "\n")
      (outside document target .lineStart) := by
  have mark : Leads (outside document target .lineStart) "#"
      (outside document target (.comment .line)) := rfl
  have inside : Leads (outside document target (.comment .line)) line
      (outside document target (.comment .line)) :=
    reads_collected document target (fun _ => takes_comment) plain ""
  exact leads_append (leads_append mark inside) rfl

/-- The text is that of a value: a line that ends with it gives the value to its key. -/
def Writes (written : String) (value : Toml) : Prop :=
  ∀ (document filled : Document) (target : List String), document.assign target value = some filled →
    Leads (outside document target .value) (written ++ "\n") (outside filled target .lineStart)

-- Behind a value the line ends.
theorem leads_lineEnd {mode : Mode} {value : Toml}
    (settles : (outside document target mode).settle (some '\n') = (outside document target mode).place value)
    (fills : document.assign target value = some filled) :
    Leads (outside document target mode) "\n" (outside filled target .lineStart) := by
  have placed : (outside document target mode).place value = some (outside filled target .lineEnd) := by
    simp [State.place, outside, fills]
  have taken : (outside document target mode).takes '\n' = some (outside filled target .lineStart) := by
    rw [State.takes, settles, placed]
    rfl
  have spelled : "\n".toList = ['\n'] := by decide
  rw [Leads, spelled, List.foldlM_cons, taken]
  rfl

theorem takes_string {quote next : Quote} {c : Char} (taken : quote.takes c = some next) :
    (outside document target (.string quote)).takes c = some (outside document target (.string next)) := by
  rw [Quote.takes] at taken
  split at taken
  · next going =>
    simp [State.takes, outside, State.settle, going, State.step, State.stepString, taken, State.at]
  · cases taken

theorem reads_string {quote last : Quote} {characters : List Char}
    (read : quote.reads characters = some last) :
    characters.foldlM State.takes (outside document target (.string quote)) =
      some (outside document target (.string last)) := by
  induction characters generalizing quote with
  | nil =>
    cases read
    rfl
  | cons c rest ih =>
    rw [Quote.reads, List.foldlM_cons] at read
    cases taken : quote.takes c with
    | none =>
      rw [taken] at read
      cases read
    | some next =>
      rw [taken] at read
      rw [List.foldlM_cons, takes_string taken]
      exact ih read

/-- A string is written as a value. -/
theorem writes_string (text : String) : Writes (stringText text) (.string text) := by
  intro document filled target fills
  obtain ⟨literal, behind, written, last, read, closes⟩ := spells_styleOf text.toList
  have first : (outside document target .value).takes (markOf literal) =
      some (outside document target (.string (opened literal))) := by
    cases literal <;> rfl
  have leads : Leads (outside document target .value) (stringText text)
      (outside document target (.string last)) := by
    rw [Leads, stringText, String.toList_ofList, written, List.foldlM_cons, first]
    exact reads_string read
  refine leads_append leads (leads_lineEnd ?_ fills)
  have ends := closes '\n' (by cases literal <;> decide)
  rw [String.ofList_toList] at ends
  simp [State.settle, outside, ends]

theorem endsScalar_alphanum {c : Char} (plain : c.isAlphanum) : endsScalar c = false := by
  have apart (mark : Char) (other : mark.isAlphanum = false) : c ≠ mark := ne_of_good plain mark other
  simp [endsScalar, isBlank, apart ' ' rfl, apart '\t' rfl,
    apart '\n' rfl, apart '\r' rfl, apart '#' rfl,
    apart ',' rfl, apart ']' rfl, apart '\x7d' rfl]

theorem takes_firstScalar {c : Char} (plain : c.isAlphanum) :
    (outside document target .value).takes c = some (outside document target (.scalar ("".push c))) := by
  have apart (mark : Char) (other : mark.isAlphanum = false) : c ≠ mark := ne_of_good plain mark other
  simp [State.takes, outside, State.settle, State.step, isBlank, State.stepValue, State.at,
    endsScalar_alphanum plain, apart ' ' rfl, apart '\t' rfl,
    apart '\x22' rfl, apart '\'' rfl, apart '[' rfl,
    apart '\x7b' rfl]

/-- A word of letters and digits is written as the value that it spells. -/
theorem writes_scalar {word : String} {value : Toml} (spells : scalar? word.toList = some value)
    (named : word ≠ "") (plain : word.toList.all Char.isAlphanum) : Writes word value := by
  intro document filled target fills
  have leads : Leads (outside document target .value) word (outside document target (.scalar word)) := by
    have spelled : word = String.ofList word.toList := by simp
    cases characters : word.toList with
    | nil => exact absurd (String.toList_eq_nil_iff.mp characters) named
    | cons c rest =>
      rw [characters, List.all_cons, Bool.and_eq_true] at plain
      rw [Leads, characters, List.foldlM_cons, takes_firstScalar plain.1]
      have inside : rest.all fun c => !endsScalar c := by
        simpa using fun c member => endsScalar_alphanum (List.all_eq_true.mp plain.2 c member)
      have collected := reads_collected document target takes_scalar inside ("".push c)
      rw [push_append_ofList, String.empty_append, ← characters, ← spelled] at collected
      exact collected
  refine leads_append leads (leads_lineEnd ?_ fills)
  simp [State.settle, outside, endsScalar, spells]

theorem writes_nat (n : Nat) : Writes (toString n) (.integer n) := by
  have written : (toString n).toList = Nat.toDigits 10 n := Nat.toList_repr
  refine writes_scalar (scalar_toString_nat n) (fun empty => ?_) ?_
  · rw [empty] at written
    exact Nat.toDigits_ne_nil written.symm
  · rw [written, List.all_eq_true]
    intro c inside
    have digit := Nat.isDigit_of_mem_toDigits (by decide) (by decide) inside
    simp [Char.isAlphanum, digit]

theorem writes_bool (value : Bool) : Writes (toString value) (.boolean value) :=
  writes_scalar (scalar_toString_bool value) (by cases value <;> decide) (by cases value <;> decide)

/-- A key with its value fills a line. -/
theorem leads_entry {written : String} {value : Toml} (writes : Writes written value) (named : name ≠ "")
    (bare : name.toList.all isBareKey) (fills : document.assign [name] value = some filled) :
    Leads (outside document target .lineStart) (name ++ " = " ++ (written ++ "\n"))
      (outside filled [name] .lineStart) :=
  leads_append (leads_key named bare) (writes _ _ _ fills)

end Lines

end BoolQuery.Toml.Reader
