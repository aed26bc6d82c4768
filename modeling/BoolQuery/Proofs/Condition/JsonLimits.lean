import BoolQuery.Output
import BoolQuery.Proofs.Condition.Depth
import BoolQuery.Proofs.Condition.Encoding
import BoolQuery.Proofs.Json.Nesting
import BoolQuery.Proofs.Json.Reorder
import BoolQuery.Proofs.Json.TooDeep

/-! A condition is written as JSON up to one depth and read again up to another, smaller one. -/
namespace BoolQuery.Condition

open Json (Reordered newline stringText writeMembers)
open Json.Reader (Frame Leads Mode State StopsIn StopsInside maxNesting)

section Reading

variable {condition : Condition} {value : Json} {text : String}

theorem ofJsonText_of_leads (leads : Leads {} text ⟨[], .done value⟩)
    (read : ofJson false value = .ok condition) : ofJsonText (text ++ "\n") = .ok condition := by
  have ended : State.run {} (text ++ "\n").toList = .complete value "\n".toList := by
    rw [String.toList_append, leads]
    rfl
  have blank : "\n".toList.all Json.Reader.isBlank := by decide
  simp only [ofJsonText, ended, read, blank, if_true]

/-- A text is read back when its value has room, in any order of the members. -/
theorem ofJsonText_reordered (fits : condition.height ≤ maxNesting)
    (reordered : Reordered condition.toJson value) : ofJsonText (value.pretty ++ "\n") = .ok condition := by
  obtain ⟨depth, plain⟩ := Json.nesting_reordered reordered
  rw [nesting_toJson] at depth
  rw [numberless_toJson] at plain
  rw [depth] at fits
  exact ofJsonText_of_leads (Json.Reader.leads_pretty plain.symm fits)
    (ofJson_reordered reordered (distinctKeys_toJson condition) (ofJson_toJson condition false))

theorem depth_le_of_ofJsonText (read : ofJsonText text = .ok condition) :
    condition.depth ≤ maxNesting := by
  rw [ofJsonText] at read
  split at read
  · next value rest complete =>
    split at read
    · cases read
    · next found taken =>
      split at read
      · cases read
        rw [depth_eq_height]
        exact Nat.le_trans (height_le_nesting value taken) (Json.Reader.nesting_of_complete complete)
      · cases read
  · split at read <;> cases read

end Reading

section Refusal

variable {condition : Condition}

-- The tag comes first and is the only one.
theorem toJson_members (condition : Condition) :
    ∃ (shape : Shape) (fields : List (String × Json)), condition.toJson = shapeJson shape fields ∧
      ∀ field ∈ fields, field.1 ≠ tagKey := by
  cases condition <;> exact ⟨_, _, rfl, by simp [tagKey]⟩

theorem memberTag_known (shape : Shape) {members : List (String × Json)}
    (others : ∀ member ∈ members, member.1 ≠ tagKey) :
    memberTag false (some shape) members = .ok (some shape) := by
  induction members with
  | nil => rfl
  | cons member rest ih =>
    rw [List.forall_mem_cons] at others
    rw [memberTag, if_neg others.1]
    exact ih others.2

theorem readTag_string (shape : Shape) : readTag false (.string shape.tag) = .ok shape := by
  cases shape <;> rfl

theorem closeFrames_append (held : Option Json) (inner outer : List Frame) :
    Json.Reader.closeFrames held (inner ++ outer) =
      Json.Reader.closeFrames (Json.Reader.closeFrames held inner) outer := by
  induction inner generalizing held with
  | nil => rfl
  | cons frame inner ih => cases frame <;> exact ih _

theorem soFar_inside (before : List (String × Json)) (first : String × Json) (key : String)
    (inner : List Frame) (mode : Mode) :
    ∃ held : Option Json,
      State.soFar? ⟨inner ++ [.object (before.reverse ++ [first]) key], mode⟩ =
        some (.object (first :: before ++ (held.map (key, ·)).toList)) := by
  refine ⟨Json.Reader.closeFrames mode.held? inner, ?_⟩
  rw [State.soFar?, closeFrames_append, Json.Reader.closeFrames, Json.Reader.closeFrames]
  cases Json.Reader.closeFrames mode.held? inner <;> simp

/-- Inside a field of an object that begins with a good tag, the tag is no fault. -/
theorem tagFault_inside (shape : Shape) {before : List (String × Json)} {key : String}
    (others : ∀ field ∈ before, field.1 ≠ tagKey) (own : key ≠ tagKey) (inner : List Frame)
    (mode : Mode) :
    tagFault? ⟨inner ++ [.object (before.reverse ++ [(tagKey, .string shape.tag)]) key], mode⟩ =
      none := by
  obtain ⟨held, soFar⟩ := soFar_inside before (tagKey, .string shape.tag) key inner mode
  have known : memberTag false (some shape) (before ++ (held.map (key, ·)).toList) =
      .ok (some shape) := by
    apply memberTag_known
    rw [List.forall_mem_append]
    exact ⟨others, by cases held <;> simp [own]⟩
  have named : memberTag false none
      ((tagKey, .string shape.tag) :: before ++ (held.map (key, ·)).toList) = .ok (some shape) := by
    rw [List.cons_append, memberTag, if_pos rfl, readTag_string]
    exact known
  have pending : State.pendingKey?
      ⟨inner ++ [.object (before.reverse ++ [(tagKey, .string shape.tag)]) key], mode⟩ = some key := by
    simp [State.pendingKey?]
  simp only [tagFault?, soFar, named, pending, Option.some.injEq, own, if_false]

theorem ofJsonText_tooDeep (deep : maxNesting < condition.height) :
    ofJsonText (condition.toJson.pretty ++ "\n") = .error (.text .malformed) := by
  obtain ⟨shape, fields, same, others⟩ := toJson_members condition
  have plain := numberless_toJson condition
  have nested := nesting_toJson condition
  rw [same] at plain nested ⊢
  simp only [shapeJson, Json.numberless, Json.numberlessMembers, Bool.true_and] at plain
  simp only [shapeJson, Json.nesting, Json.memberNesting] at nested
  have started : Leads {} "" {} := fun rest => rfl
  have entered := (Json.Reader.leads_enter (.value []) started (by decide)).2
  have named := Json.Reader.leads_firstKey entered 1 tagKey
  have tagged := Json.Reader.leads_string (.value _) named shape.tag
  obtain ⟨before, key, value, after, rfl, inner, mode, stops⟩ :=
    Json.Reader.stopsInside_members fields plain tagged (by decide)
      (by simp only [List.length_nil]; omega) 0
  rw [List.forall_mem_append, List.forall_mem_cons] at others
  have ended := Json.Reader.stopsIn_append (Json.Reader.stopsIn_newline stops 0) "\x7d"
  have stopped := Json.Reader.stopsIn_append ended "\n" []
  rw [List.append_nil] at stopped
  have written : (shapeJson shape (before ++ (key, value) :: after)).pretty ++ "\n" =
      newline 0 (writeMembers 0 (newline 1 ("" ++ "\x7b") ++ stringText tagKey ++ ": " ++
        stringText shape.tag) (before ++ (key, value) :: after)) ++ "\x7d" ++ "\n" := rfl
  rw [written, ofJsonText, stopped]
  simp only [tagFault_inside shape others.1 others.2.1 inner mode]

end Refusal

section Limits

variable {condition : Condition}

theorem renderCondition_json (highlighter : Highlighter) (fits : condition.depth ≤ maxJsonDepth) :
    renderCondition ⟨false⟩ highlighter .json condition = .ok (condition.toJson.pretty ++ "\n") := by
  have room : ¬ condition.depth > maxJsonDepth := Nat.not_lt.mpr fits
  simp [renderCondition, checkJsonDepth, room, Palette.highlight, bind, Except.bind, pure, Except.pure]

/-- The text of a condition is read back up to a depth of 127, also with the members of its objects
in another order; between 128 and 1024 it is written but refused as JSON; deeper conditions are not
written. Whatever is read is at most 127 deep. -/
theorem json_form_limits (highlighter : Highlighter) (condition : Condition) :
    (condition.depth ≤ 127 → ∃ text,
      renderCondition ⟨false⟩ highlighter .json condition = .ok text ∧ ofJsonText text = .ok condition ∧
        text = condition.toJson.pretty ++ "\n" ∧
        ∀ value, Reordered condition.toJson value → ofJsonText (value.pretty ++ "\n") = .ok condition) ∧
    (128 ≤ condition.depth → condition.depth ≤ 1024 → ∃ text,
      renderCondition ⟨false⟩ highlighter .json condition = .ok text ∧
        ofJsonText text = .error (.text .malformed)) ∧
    (1024 < condition.depth →
      renderCondition ⟨false⟩ highlighter .json condition = .error ⟨condition.depth⟩) ∧
    ∀ text, ofJsonText text = .ok condition → condition.depth ≤ 127 := by
  refine ⟨?_, ?_, ?_, ?_⟩
  · intro shallow
    have writes := renderCondition_json highlighter (Nat.le_trans shallow (by decide))
    rw [depth_eq_height] at shallow
    exact ⟨_, writes, ofJsonText_reordered shallow (Json.reordered_refl _), rfl,
      fun value reordered => ofJsonText_reordered shallow reordered⟩
  · intro deep fits
    have writes := renderCondition_json highlighter fits
    rw [depth_eq_height] at deep
    exact ⟨_, writes, ofJsonText_tooDeep deep⟩
  · intro tooDeep
    have refused : condition.depth > maxJsonDepth := tooDeep
    simp [renderCondition, checkJsonDepth, refused, bind, Except.bind]
  · intro text read
    exact depth_le_of_ofJsonText read

theorem depth_negated (count : Nat) (condition : Condition) :
    (negated count condition).depth = condition.depth + count := by
  induction count generalizing condition with
  | zero => rfl
  | succ count ih =>
    rw [negated, ih, depth_eq_height, depth_eq_height, height]
    omega

/-- A word below 126, 127 and 1024 negations, and the key of a negation behind its inner condition. -/
theorem negations_json_limits :
    (∃ text, renderCondition ⟨false⟩ .uniform .json (negated 126 (term "a")) = .ok text ∧
      ofJsonText text = .ok (negated 126 (term "a")) ∧ (negated 126 (term "a")).depth ≤ 127) ∧
    (∃ text, renderCondition ⟨false⟩ .uniform .json (negated 127 (term "a")) = .ok text ∧
      ofJsonText text = .error (.text .malformed)) ∧
    renderCondition ⟨false⟩ .uniform .json (negated 1024 (term "a")) = .error ⟨1025⟩ ∧
    ofJsonText ((Json.object [("inner", (term "a").toJson), (tagKey, .string "not")]).pretty ++ "\n") =
      .ok (.not (term "a")) := by
  have word : (term "a").depth = 1 := by rw [depth_eq_height, term, height]
  have depth (count : Nat) : (negated count (term "a")).depth = 1 + count := by
    rw [depth_negated, word]
  have atLimit := json_form_limits .uniform (negated 126 (term "a"))
  have behindLimit := json_form_limits .uniform (negated 127 (term "a"))
  have tooDeep := json_form_limits .uniform (negated 1024 (term "a"))
  have one := json_form_limits .uniform (negated 1 (term "a"))
  rw [depth] at atLimit behindLimit tooDeep one
  obtain ⟨text, written, read, -⟩ := atLimit.1 (by decide)
  obtain ⟨_, -, -, -, orders⟩ := one.1 (by decide)
  have swapped : Reordered (negated 1 (term "a")).toJson
      (.object [("inner", (term "a").toJson), (tagKey, .string "not")]) :=
    .object (Json.reordered_members_refl _) (List.Perm.swap _ _ _)
  exact ⟨⟨text, written, read, depth 126 ▸ atLimit.2.2.2 text read⟩,
    behindLimit.2.1 (by decide) (by decide), tooDeep.2.2.1 (by decide), orders _ swapped⟩

end Limits

end BoolQuery.Condition
