import BoolQuery.Condition.Json
import BoolQuery.Condition.Walk
import BoolQuery.Proofs.Json.Reorder
import BoolQuery.Proofs.Outcomes
import Mathlib.Logic.Basic

/-! Conditions out of JSON values. A condition is the one that its own value stands for, however the
members of the objects are ordered, and no condition is deeper than the value that stands for it. -/
namespace BoolQuery.Condition

section Results

variable {inner : Bool} {shape : Shape} {values all : FieldValues} {condition : Condition}

/-- A field, which is a condition or none. -/
def readField (kind : FieldKind) (value : Json) : Except JsonFault FieldValue :=
  if kind = .condition then FieldValue.condition <$> ofJson true value else readScalar kind value

def readMember (shape : Shape) (values : FieldValues) (member : String × Json) :
    Except JsonFault FieldValues :=
  match shape.fields.lookup member.1 with
  | none => .ok values
  | some kind =>
    if (values.lookup member.1).isSome then .error (.repeated member.1)
    else do return (member.1, ← readField kind member.2) :: values

theorem readMember_eq_ok_iff {member : String × Json} :
    readMember shape values member = .ok all ↔
      (shape.fields.lookup member.1 = none ∧ values = all) ∨
      ∃ kind read, shape.fields.lookup member.1 = some kind ∧ values.lookup member.1 = none ∧
        readField kind member.2 = .ok read ∧ (member.1, read) :: values = all := by
  rw [readMember]
  cases shape.fields.lookup member.1 with
  | none => simp
  | some kind =>
    cases values.lookup member.1 with
    | some known => simp
    | none => simp [bind_eq_ok_iff, pure, Except.pure]

theorem readMembers_cons_iff {member : String × Json} {rest : List (String × Json)} :
    readMembers shape values (member :: rest) = .ok all ↔
      ∃ next, readMember shape values member = .ok next ∧ readMembers shape next rest = .ok all := by
  rw [readMembers, readMember]
  cases shape.fields.lookup member.1 with
  | none => simp
  | some kind =>
    cases values.lookup member.1 with
    | some known => simp
    | none =>
      simp only [Option.isSome_none, Bool.false_eq_true, if_false, readField]
      split <;> simp [bind_eq_ok_iff, pure, Except.pure]

theorem readItems_cons_iff {name : String} {kind : FieldKind} {fields : List (String × FieldKind)}
    {item : Json} {rest : List Json} :
    readItems shape ((name, kind) :: fields) values (item :: rest) = .ok all ↔
      ∃ field, readField kind item = .ok field ∧
        readItems shape fields ((name, field) :: values) rest = .ok all := by
  rw [readItems, readField]
  split <;> simp [bind_eq_ok_iff, map_eq_ok_iff]

theorem ofJson_object_iff {members : List (String × Json)} :
    ofJson inner (.object members) = .ok condition ↔
      ∃ shape all, memberTag inner none members = .ok (some shape) ∧
        readMembers shape [] members = .ok all ∧ build shape all = .ok condition := by
  rw [ofJson, bind_eq_ok_iff]
  constructor
  · rintro ⟨named, tag, read⟩
    cases named with
    | none => cases read
    | some shape =>
      obtain ⟨all, fields, built⟩ := bind_eq_ok_iff.mp read
      exact ⟨shape, all, tag, fields, built⟩
  · rintro ⟨shape, all, tag, fields, built⟩
    exact ⟨some shape, tag, bind_eq_ok_iff.mpr ⟨all, fields, built⟩⟩

theorem ofJson_array_iff {tag : Json} {items : List Json} :
    ofJson inner (.array (tag :: items)) = .ok condition ↔
      ∃ shape all, readTag inner tag = .ok shape ∧
        readItems shape shape.fields [] items = .ok all ∧ build shape all = .ok condition := by
  simp only [ofJson, bind_eq_ok_iff, exists_and_left]

end Results

section Order

variable {inner : Bool} {shape : Shape} {values others all : FieldValues} {condition : Condition}
  {first second : List (String × Json)}

/-- The lists hold the same value under each name. -/
def Alike (values others : FieldValues) : Prop :=
  ∀ name, values.lookup name = others.lookup name

theorem alike_cons (alike : Alike values others) (entry : String × FieldValue) :
    Alike (entry :: values) (entry :: others) := by
  intro name
  rw [lookup_entry, lookup_entry, alike]

theorem alike_swap {one two : String × FieldValue} (differ : one.1 ≠ two.1) :
    Alike (one :: two :: values) (two :: one :: values) := by
  intro name
  simp only [lookup_entry]
  by_cases here : name = one.1
  · simp [here, differ]
  · simp [here]

theorem build_congr (alike : Alike values others) (shape : Shape) :
    build shape values = build shape others := by
  cases shape <;>
    simp only [build, FieldValues.text, FieldValues.condition, FieldValues.flag, FieldValues.bound,
      FieldValues.require, alike _]

theorem readMember_alike (alike : Alike values others) {member : String × Json}
    (read : readMember shape values member = .ok all) :
    ∃ same, readMember shape others member = .ok same ∧ Alike all same := by
  rcases readMember_eq_ok_iff.mp read with ⟨unknown, rfl⟩ | ⟨kind, field, known, fresh, taken, rfl⟩
  · exact ⟨others, readMember_eq_ok_iff.mpr (.inl ⟨unknown, rfl⟩), alike⟩
  · rw [alike] at fresh
    exact ⟨_, readMember_eq_ok_iff.mpr (.inr ⟨kind, field, known, fresh, taken, rfl⟩),
      alike_cons alike _⟩

theorem readMembers_alike (alike : Alike values others)
    (read : readMembers shape values first = .ok all) :
    ∃ same, readMembers shape others first = .ok same ∧ Alike all same := by
  induction first generalizing values others with
  | nil =>
    cases read
    exact ⟨others, rfl, alike⟩
  | cons member rest ih =>
    obtain ⟨next, taken, onward⟩ := readMembers_cons_iff.mp read
    obtain ⟨next', taken', alike'⟩ := readMember_alike alike taken
    obtain ⟨same, onward', ends⟩ := ih alike' onward
    exact ⟨same, readMembers_cons_iff.mpr ⟨next', taken', onward'⟩, ends⟩

-- Neither of two members with different keys hides the other.
theorem readMember_swap {one two : String × Json} (differ : one.1 ≠ two.1) {next : FieldValues}
    (taken : readMember shape values one = .ok next) (read : readMember shape next two = .ok all) :
    ∃ next' all', readMember shape values two = .ok next' ∧ readMember shape next' one = .ok all' ∧
      Alike all all' := by
  rcases readMember_eq_ok_iff.mp taken with ⟨unknown, rfl⟩ | ⟨kind, field, known, fresh, here, rfl⟩
  · exact ⟨all, all, read, readMember_eq_ok_iff.mpr (.inl ⟨unknown, rfl⟩), fun _ => rfl⟩
  rcases readMember_eq_ok_iff.mp read with
    ⟨unknown, rfl⟩ | ⟨kind', field', known', fresh', there, rfl⟩
  · exact ⟨values, _, readMember_eq_ok_iff.mpr (.inl ⟨unknown, rfl⟩), taken, fun _ => rfl⟩
  · have free : values.lookup two.1 = none := by
      rwa [lookup_entry, if_neg differ.symm] at fresh'
    have still : List.lookup one.1 ((two.1, field') :: values) = none := by
      rwa [lookup_entry, if_neg differ]
    exact ⟨_, _, readMember_eq_ok_iff.mpr (.inr ⟨kind', field', known', free, there, rfl⟩),
      readMember_eq_ok_iff.mpr (.inr ⟨kind, field, known, still, here, rfl⟩),
      alike_swap (Ne.symm differ)⟩

/-- Members with keys of their own may stand in any order. -/
theorem readMembers_perm (order : first.Perm second) (distinct : (first.map Prod.fst).Nodup)
    (read : readMembers shape values first = .ok all) :
    ∃ same, readMembers shape values second = .ok same ∧ Alike all same := by
  induction order generalizing values all with
  | nil => exact ⟨all, read, fun _ => rfl⟩
  | cons member order ih =>
    rw [List.map_cons, List.nodup_cons] at distinct
    obtain ⟨next, taken, onward⟩ := readMembers_cons_iff.mp read
    obtain ⟨same, onward', alike⟩ := ih distinct.2 onward
    exact ⟨same, readMembers_cons_iff.mpr ⟨next, taken, onward'⟩, alike⟩
  | swap two one rest =>
    have differ : one.1 ≠ two.1 := by
      intro same
      simp [same] at distinct
    obtain ⟨next, taken, behind⟩ := readMembers_cons_iff.mp read
    obtain ⟨last, taken', onward⟩ := readMembers_cons_iff.mp behind
    obtain ⟨next', last', early, late, alike⟩ := readMember_swap differ taken taken'
    obtain ⟨same, onward', ends⟩ := readMembers_alike alike onward
    exact ⟨same, readMembers_cons_iff.mpr ⟨next', early,
      readMembers_cons_iff.mpr ⟨last', late, onward'⟩⟩, ends⟩
  | trans order order' ih ih' =>
    obtain ⟨middle, read', alike⟩ := ih distinct read
    obtain ⟨same, read'', alike'⟩ := ih' ((order.map Prod.fst).nodup_iff.mp distinct) read'
    exact ⟨same, read'', fun name => (alike name).trans (alike' name)⟩

/-- With one tag among the members, it may stand anywhere. -/
theorem memberTag_perm (order : first.Perm second) (distinct : (first.map Prod.fst).Nodup)
    (known : Option Shape) : memberTag inner known first = memberTag inner known second := by
  induction order generalizing known with
  | nil => rfl
  | cons member order ih =>
    rw [List.map_cons, List.nodup_cons] at distinct
    simp only [memberTag, ih distinct.2]
  | swap two one rest =>
    have differ : one.1 ≠ two.1 := by
      intro same
      simp [same] at distinct
    by_cases here : one.1 = tagKey
    · have there : two.1 ≠ tagKey := fun same => differ (here.trans same.symm)
      simp only [memberTag, here, there, if_true, if_false]
    · simp only [memberTag, here, if_false]
  | trans order order' ih ih' =>
    exact (ih distinct known).trans (ih' ((order.map Prod.fst).nodup_iff.mp distinct) known)

end Order

section Reordering

open Json (Reordered ReorderedItems ReorderedMembers)

variable {inner : Bool} {shape : Shape} {value other : Json}

theorem readScalar_reordered (reordered : Reordered value other) {kind : FieldKind}
    {read : FieldValue} (taken : readScalar kind value = .ok read) :
    readScalar kind other = .ok read := by
  cases reordered with
  | array items => cases kind <;> cases taken
  | object members order => cases kind <;> cases taken
  | _ => exact taken

theorem readTag_reordered (reordered : Reordered value other)
    (named : readTag inner value = .ok shape) : readTag inner other = .ok shape := by
  cases reordered with
  | array items => cases named
  | object members order => cases named
  | _ => exact named

theorem memberTag_reordered {first second : List (String × Json)}
    (members : ReorderedMembers first second) {known tag : Option Shape}
    (named : memberTag inner known first = .ok tag) : memberTag inner known second = .ok tag := by
  match members with
  | .nil => exact named
  | .cons key inside rest =>
    rw [memberTag] at named ⊢
    split at named
    · next isTag =>
      split at named
      · cases named
      · next fresh =>
        split at named
        · next shape taken =>
          rw [if_pos isTag, if_neg fresh, readTag_reordered inside taken]
          exact memberTag_reordered rest named
        · cases named
    · next isField =>
      rw [if_neg isField]
      exact memberTag_reordered rest named

theorem keys_reordered {first second : List (String × Json)} (members : ReorderedMembers first second) :
    first.map Prod.fst = second.map Prod.fst := by
  cases members with
  | nil => rfl
  | cons key inside rest => rw [List.map_cons, List.map_cons, keys_reordered rest]

mutual

/-- The order of the members of its objects does not change what a value stands for. -/
theorem ofJson_reordered {value other : Json} (reordered : Reordered value other)
    (distinct : value.distinctKeys) {inner : Bool} {condition : Condition}
    (read : ofJson inner value = .ok condition) : ofJson inner other = .ok condition := by
  match reordered with
  | .null | .bool _ | .number _ | .string _ => exact read
  | .array .nil => exact read
  | .array (.cons tag items) =>
    simp only [Json.distinctKeys, Json.distinctItems, Bool.and_eq_true] at distinct
    obtain ⟨shape, all, named, fields, built⟩ := ofJson_array_iff.mp read
    exact ofJson_array_iff.mpr ⟨shape, all, readTag_reordered tag named,
      readItems_reordered items distinct.2 fields, built⟩
  | .object members order =>
    simp only [Json.distinctKeys, Bool.and_eq_true, decide_eq_true_eq] at distinct
    obtain ⟨shape, all, named, fields, built⟩ := ofJson_object_iff.mp read
    have keys := keys_reordered members ▸ distinct.1
    obtain ⟨same, fields', alike⟩ :=
      readMembers_perm order keys (readMembers_reordered members distinct.2 fields)
    rw [build_congr alike] at built
    exact ofJson_object_iff.mpr ⟨shape, same,
      (memberTag_perm order keys none).symm.trans (memberTag_reordered members named),
      fields', built⟩

theorem readMembers_reordered {first second : List (String × Json)}
    (members : ReorderedMembers first second) (distinct : Json.distinctMembers first)
    {shape : Shape} {values all : FieldValues} (read : readMembers shape values first = .ok all) :
    readMembers shape values second = .ok all := by
  match members with
  | .nil => exact read
  | .cons key inside rest =>
    simp only [Json.distinctMembers, Bool.and_eq_true] at distinct
    obtain ⟨next, taken, onward⟩ := readMembers_cons_iff.mp read
    refine readMembers_cons_iff.mpr ⟨next, ?_, readMembers_reordered rest distinct.2 onward⟩
    rcases readMember_eq_ok_iff.mp taken with unknown | ⟨kind, field, known, fresh, here, same⟩
    · exact readMember_eq_ok_iff.mpr (.inl unknown)
    · exact readMember_eq_ok_iff.mpr
        (.inr ⟨kind, field, known, fresh, readField_reordered inside distinct.1 here, same⟩)

theorem readItems_reordered {first second : List Json} (items : ReorderedItems first second)
    (distinct : Json.distinctItems first) {shape : Shape} {fields : List (String × FieldKind)}
    {values all : FieldValues} (read : readItems shape fields values first = .ok all) :
    readItems shape fields values second = .ok all := by
  match items, fields with
  | .nil, _ => exact read
  | .cons _ _, [] => cases read
  | .cons inside rest, (name, kind) :: fields =>
    simp only [Json.distinctItems, Bool.and_eq_true] at distinct
    obtain ⟨field, here, onward⟩ := readItems_cons_iff.mp read
    exact readItems_cons_iff.mpr ⟨field, readField_reordered inside distinct.1 here,
      readItems_reordered rest distinct.2 onward⟩

theorem readField_reordered {value other : Json} (inside : Reordered value other)
    (distinct : value.distinctKeys) {kind : FieldKind} {field : FieldValue}
    (read : readField kind value = .ok field) :
    readField kind other = .ok field := by
  rw [readField] at read ⊢
  split at read
  · next nested =>
    rw [if_pos nested]
    obtain ⟨condition, taken, rfl⟩ := map_eq_ok_iff.mp read
    exact map_eq_ok_iff.mpr ⟨condition, ofJson_reordered inside distinct taken, rfl⟩
  · next plain =>
    rw [if_neg plain]
    exact readScalar_reordered inside read

end

end Reordering

section Heights

variable {inner : Bool} {shape : Shape} {values : FieldValues} {condition : Condition} {limit : Nat}

/-- No condition among the fields is higher than the limit. -/
def Low (limit : Nat) (values : FieldValues) : Prop :=
  ∀ name condition, values.lookup name = some (.condition condition) → condition.height ≤ limit

theorem low_nil (limit : Nat) : Low limit [] := by
  intro name condition found
  cases found

theorem low_cons (low : Low limit values) {field : FieldValue}
    (fits : ∀ condition, field = .condition condition → condition.height ≤ limit) (name : String) :
    Low limit ((name, field) :: values) := by
  intro asked condition found
  rw [lookup_entry] at found
  split at found
  · exact fits condition (Option.some.inj found)
  · exact low asked condition found

theorem condition_eq_ok {name : String} (read : values.condition name = .ok condition) :
    values.lookup name = some (.condition condition) := by
  obtain ⟨field, required, taken⟩ := bind_eq_ok_iff.mp read
  rw [FieldValues.require] at required
  split at required
  · next value found =>
    cases required
    cases field <;> cases taken
    exact found
  · cases required

/-- A condition is one level higher than the highest of its fields. -/
theorem height_build (low : Low limit values) (built : build shape values = .ok condition) :
    condition.height ≤ limit + 1 := by
  cases shape <;> simp only [build, bind_eq_ok_iff, pure, Except.pure, Except.ok.injEq] at built
  case holds =>
    obtain ⟨_, _, _, _, rfl⟩ := built
    exact Nat.le_add_left 1 limit
  case range =>
    obtain ⟨_, _, _, _, _, _, rfl⟩ := built
    exact Nat.le_add_left 1 limit
  case and | or =>
    obtain ⟨left, first, right, second, rfl⟩ := built
    have below := low _ _ (condition_eq_ok first)
    have beside := low _ _ (condition_eq_ok second)
    simp only [height]
    omega
  case not =>
    obtain ⟨inside, read, rfl⟩ := built
    have below := low _ _ (condition_eq_ok read)
    simp only [height]
    omega

theorem not_readScalar {kind : FieldKind} {value : Json} :
    readScalar kind value ≠ .ok (.condition condition) := by
  intro read
  unfold readScalar at read
  split at read <;> cases read

mutual

/-- No condition is higher than the value that stands for it is nested. -/
theorem height_le_nesting (value : Json) {inner : Bool} {condition : Condition}
    (read : ofJson inner value = .ok condition) : condition.height ≤ value.nesting := by
  match value with
  | .null | .bool _ | .number _ | .string _ | .array [] => cases read
  | .array (tag :: items) =>
    obtain ⟨shape, all, -, fields, built⟩ := ofJson_array_iff.mp read
    rw [Json.nesting, Json.itemNesting]
    exact height_build (low_items items (Nat.le_max_right _ _) (low_nil _) fields) built
  | .object members =>
    obtain ⟨shape, all, -, fields, built⟩ := ofJson_object_iff.mp read
    rw [Json.nesting]
    exact height_build (low_members members (Nat.le_refl _) (low_nil _) fields) built

theorem low_members (members : List (String × Json)) {limit : Nat}
    (fits : Json.memberNesting members ≤ limit) {shape : Shape} {values all : FieldValues}
    (low : Low limit values) (read : readMembers shape values members = .ok all) :
    Low limit all := by
  match members with
  | [] =>
    cases read
    exact low
  | (key, value) :: rest =>
    rw [Json.memberNesting, Nat.max_le] at fits
    obtain ⟨next, taken, onward⟩ := readMembers_cons_iff.mp read
    refine low_members rest fits.2 ?_ onward
    obtain ⟨-, rfl⟩ | ⟨kind, field, -, -, here, rfl⟩ := readMember_eq_ok_iff.mp taken
    · exact low
    · exact low_cons low (height_readField value fits.1 here) key

theorem low_items (items : List Json) {limit : Nat} (fits : Json.itemNesting items ≤ limit)
    {shape : Shape} {fields : List (String × FieldKind)} {values all : FieldValues}
    (low : Low limit values) (read : readItems shape fields values items = .ok all) :
    Low limit all := by
  match items, fields with
  | [], [] =>
    cases read
    exact low
  | [], _ :: _ => cases read
  | _ :: _, [] => cases read
  | item :: rest, (name, kind) :: fields =>
    rw [Json.itemNesting, Nat.max_le] at fits
    obtain ⟨field, here, onward⟩ := readItems_cons_iff.mp read
    exact low_items rest fits.2 (low_cons low (height_readField item fits.1 here) name) onward

theorem height_readField (value : Json) {limit : Nat} (fits : value.nesting ≤ limit)
    {kind : FieldKind} {field : FieldValue} (read : readField kind value = .ok field)
    (condition : Condition) (nested : field = .condition condition) : condition.height ≤ limit := by
  subst nested
  rw [readField] at read
  split at read
  · obtain ⟨same, taken, wrapped⟩ := map_eq_ok_iff.mp read
    cases wrapped
    exact Nat.le_trans (height_le_nesting value taken) fits
  · exact absurd read not_readScalar

end

end Heights

end BoolQuery.Condition
