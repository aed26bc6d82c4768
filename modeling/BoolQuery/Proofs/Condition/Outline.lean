import BoolQuery.Condition.Outline
import BoolQuery.Proofs.Condition.Fields
import BoolQuery.Proofs.QueryError.Refused
import BoolQuery.Proofs.Text.Lines
import Mathlib.Algebra.GroupWithZero.Nat

/-! The outline of a condition, node by node. Everything in a label but the field name is written
without line breaks, so each node has one line exactly where no name brings a line break with it. -/
namespace BoolQuery.Condition
open Token Text

section Nodes

/-- All nodes, each in front of its children and the left one in front of the right one, with the
number of nodes above it. -/
def nodesAt (level : Nat) (condition : Condition) : List (Condition × Nat) :=
  (condition, level) :: match condition with
    | .holds _ _ | .range _ _ _ _ _ => []
    | .and left right | .or left right => left.nodesAt (level + 1) ++ right.nodesAt (level + 1)
    | .not inner => inner.nodesAt (level + 1)

theorem nodesAt_children (level : Nat) (condition : Condition) :
    condition.nodesAt level =
      (condition, level) :: (condition.children.map (·, level + 1)).flatMap fun node =>
        node.1.nodesAt node.2 := by
  cases condition <;> simp [nodesAt, children]

theorem nodesAt_fst (level : Nat) (condition : Condition) :
    (condition.nodesAt level).map Prod.fst = condition.nodes := by
  induction condition generalizing level with
  | holds field value | range field lower upper withLower withUpper => rfl
  | and left right first second | or left right first second =>
    simp [nodesAt, nodes, first, second]
  | not inner ih => simp [nodesAt, nodes, ih]

end Nodes

section Labels

def kindName : Condition → String
  | .holds _ _ => "Match"
  | .and _ _ => "And"
  | .or _ _ => "Or"
  | .not _ => "Not"
  | .range _ _ _ _ _ => "TimeRange"

/-- The field that a match is in, as it stands in a label. -/
def scope (field : String) : List Char := if field = "" then [] else field.toList ++ [':', ' ']

def lowerMark (withLower : Bool) : Char := if withLower then '[' else '\x7b'

def upperMark (withUpper : Bool) : Char := if withUpper then ']' else '\x7d'

theorem toList_label_holds (field value : String) :
    (outlineLabel (.holds field value)).toList =
      "Match(".toList ++ scope field ++ (quoted value).toList ++ [')'] := by
  unfold outlineLabel scope
  by_cases unnamed : field = ""
  · simp [unnamed]
  · simp [unnamed]

theorem toList_label_range (field : String) (lower upper : Option String)
    (withLower withUpper : Bool) :
    (outlineLabel (.range field lower upper withLower withUpper)).toList =
      "TimeRange(".toList ++ field.toList ++ [':', ' ', lowerMark withLower] ++
        (outlineBound lower).toList ++ " TO ".toList ++ (outlineBound upper).toList ++
        [upperMark withUpper, ')'] := by
  have label : outlineLabel (.range field lower upper withLower withUpper) =
      "TimeRange(" ++ field ++ ": " ++ (if withLower then "[" else "\x7b") ++ outlineBound lower ++
        " TO " ++ outlineBound upper ++ (if withUpper then "]" else "\x7d") ++ ")" := rfl
  rw [label]
  cases withLower <;> cases withUpper <;> simp [lowerMark, upperMark]

theorem kindName_begins (condition : Condition) :
    condition.kindName.toList <+: condition.outlineLabel.toList := by
  cases condition with
  | holds field value =>
    rw [toList_label_holds, List.append_assoc, List.append_assoc]
    exact List.prefix_append_of_prefix (by decide : "Match".toList <+: "Match(".toList)
  | range field lower upper withLower withUpper =>
    simp only [toList_label_range, List.append_assoc]
    exact List.prefix_append_of_prefix (by decide : "TimeRange".toList <+: "TimeRange(".toList)
  | and left right | or left right | not inner => exact List.prefix_refl _

theorem feed_not_mem_bound (bound : Option String) : '\n' ∉ (outlineBound bound).toList := by
  cases bound with
  | none => decide
  | some value => exact feed_not_mem_quoted value

theorem count_scope (field : String) : (scope field).count '\n' = field.toList.count '\n' := by
  unfold scope
  by_cases unnamed : field = ""
  · simp [unnamed]
  · simp [unnamed]

/-- The line feeds of a label are those of the field name in it. -/
theorem count_label (condition : Condition) :
    condition.outlineLabel.toList.count '\n' =
      (condition.field?.toList.map fun name => name.toList.count '\n').sum := by
  have named (field : String) : field.toList.count '\n' =
      ((if field = "" then none else some field).toList.map
        fun name : String => name.toList.count '\n').sum := by
    by_cases unnamed : field = "" <;> simp [unnamed]
  cases condition with
  | holds field value =>
    have value : (quoted value).toList.count '\n' = 0 :=
      List.count_eq_zero_of_not_mem (feed_not_mem_quoted value)
    rw [toList_label_holds, List.count_append, List.count_append, List.count_append, value,
      count_scope, field?, ← named]
    simp
  | range field lower upper withLower withUpper =>
    have bound (bound : Option String) : (outlineBound bound).toList.count '\n' = 0 :=
      List.count_eq_zero_of_not_mem (feed_not_mem_bound bound)
    have marks : lowerMark withLower ≠ '\n' ∧ upperMark withUpper ≠ '\n' := by
      cases withLower <;> cases withUpper <;> decide
    rw [toList_label_range, field?, ← named]
    simp [bound, marks]
  | and left right => exact List.count_eq_zero_of_not_mem (by decide : '\n' ∉ "And".toList)
  | or left right => exact List.count_eq_zero_of_not_mem (by decide : '\n' ∉ "Or".toList)
  | not inner => exact List.count_eq_zero_of_not_mem (by decide : '\n' ∉ "Not".toList)

end Labels

section Lines

/-- The line of a node: two blanks for each node above it, and its label. -/
def outlineLine (node : Condition × Nat) : List Char :=
  List.replicate (2 * node.2) ' ' ++ node.1.outlineLabel.toList

theorem toList_outlineFrom (out : String) (pending : List (Condition × Nat)) :
    (outlineFrom out pending).toList = out.toList ++
      joinLines ((pending.flatMap fun node => node.1.nodesAt node.2).map outlineLine) := by
  induction out, pending using outlineFrom.induct with
  | case1 out => simp [outlineFrom, joinLines]
  | case2 out node level rest ih =>
    rw [outlineFrom, ih, List.flatMap_append, List.flatMap_cons, nodesAt_children level node]
    simp [joinLines, outlineLine, toList_pushn]

/-- The outline is made of the lines of the nodes. -/
theorem toList_outline (condition : Condition) :
    condition.outline.toList = joinLines ((condition.nodesAt 0).map outlineLine) := by
  simp [outline, toList_outlineFrom]

theorem count_joinLines (lines : List (List Char)) :
    (joinLines lines).count '\n' = lines.length + (lines.map (List.count '\n')).sum := by
  induction lines with
  | nil => rfl
  | cons line rest ih =>
    rw [joinLines_cons, List.count_append, List.count_cons_self, ih]
    simp
    omega

/-- No line feeds in all are none in any. -/
theorem feedless_iff (texts : List (List Char)) :
    (texts.map (List.count '\n')).sum = 0 ↔ ∀ text ∈ texts, '\n' ∉ text := by
  simp [List.sum_eq_zero_iff_forall_eq_nat, List.count_eq_zero]

theorem count_outlineLine (node : Condition × Nat) :
    (outlineLine node).count '\n' =
      (node.1.field?.toList.map fun name => name.toList.count '\n').sum := by
  have blanks : (List.replicate (2 * node.2) ' ').count '\n' = 0 := by simp [List.count_replicate]
  rw [outlineLine, List.count_append, blanks, count_label, Nat.zero_add]

theorem sum_feeds (level : Nat) (condition : Condition) :
    (((condition.nodesAt level).map outlineLine).map (List.count '\n')).sum =
      (condition.fieldNames.map fun name => name.toList.count '\n').sum := by
  induction condition generalizing level with
  | holds field value | range field lower upper withLower withUpper =>
    simp [nodesAt, count_outlineLine, fieldNames]
  | and left right first second | or left right first second =>
    rw [nodesAt, fieldNames, List.map_cons, List.map_cons, List.sum_cons, count_outlineLine,
      List.map_append, List.map_append, List.sum_append, first, second, List.map_append,
      List.sum_append]
    exact Nat.zero_add _
  | not inner ih =>
    rw [nodesAt, fieldNames, List.map_cons, List.map_cons, List.sum_cons, count_outlineLine, ih]
    exact Nat.zero_add _

/-- The lines of the nodes are without line feeds in them when the names are. -/
theorem lines_whole_iff (level : Nat) (condition : Condition) :
    (∀ line ∈ (condition.nodesAt level).map outlineLine, '\n' ∉ line) ↔
      ∀ name ∈ condition.fieldNames, '\n' ∉ name.toList := by
  rw [← feedless_iff, sum_feeds]
  simpa [Function.comp_def] using feedless_iff (condition.fieldNames.map String.toList)

/-- The outline has one line feed for each node, and besides those of the field names. -/
theorem count_outline (condition : Condition) :
    condition.outline.toList.count '\n' = condition.nodes.length +
      (condition.fieldNames.map fun name => name.toList.count '\n').sum := by
  rw [toList_outline, count_joinLines, List.length_map, sum_feeds, ← nodesAt_fst 0, List.length_map]

end Lines

section Queries

/-- Each node has a line of its own, which begins with two blanks for each node above it and the name
of its kind. -/
def OneLinePerNode (condition : Condition) : Prop :=
  ∃ lines, condition.outline.toList = joinLines lines ∧ (∀ line ∈ lines, '\n' ∉ line) ∧
    List.Forall₂ (fun line node => List.replicate (2 * node.2) ' ' ++ node.1.kindName.toList <+: line)
      lines (condition.nodesAt 0)

theorem oneLinePerNode_iff (condition : Condition) :
    condition.OneLinePerNode ↔ ∀ name ∈ condition.fieldNames, '\n' ∉ name.toList := by
  rw [← lines_whole_iff 0, ← feedless_iff, sum_feeds]
  constructor
  · rintro ⟨lines, same, whole, owned⟩
    have feeds := count_outline condition
    rw [same, count_joinLines, (feedless_iff _).mpr whole, owned.length_eq, ← nodesAt_fst 0,
      List.length_map] at feeds
    omega
  · intro free
    have whole := (feedless_iff _).mp ((sum_feeds 0 condition).trans free)
    refine ⟨_, toList_outline condition, whole, ?_⟩
    rw [List.forall₂_map_left_iff, List.forall₂_same]
    exact fun node _ => (List.prefix_append_right_inj _).mpr (kindName_begins node.1)

/-- The outline of an accepted query has an entry for each node in its order: blanks for the nodes above
it, its label, which begins with the name of its kind, and a line feed. Further line feeds come
from words in front of colons, and each node has one line exactly when there are none in these, as
in a query on one line. -/
theorem lines_of_accepted_query {query : String} {limit : Nat} {tokens : List Token}
    {condition : Condition} (read : tokenize query = .ok tokens)
    (accepted : parse query limit = .ok condition) :
    condition.outline.toList = joinLines ((condition.nodesAt 0).map outlineLine) ∧
    (∀ node ∈ condition.nodes, node.kindName.toList <+: node.outlineLabel.toList) ∧
    condition.outline.toList.count '\n' = condition.nodes.length +
      ((wordsBeforeColon (tokens.map Token.kind)).map fun name => name.toList.count '\n').sum ∧
    (condition.OneLinePerNode ↔
      ∀ name ∈ wordsBeforeColon (tokens.map Token.kind), '\n' ∉ name.toList) ∧
    ('\n' ∉ query.toList → condition.OneLinePerNode) := by
  have names := accepted_names read accepted
  rw [names]
  refine ⟨toList_outline condition, fun node _ => kindName_begins node, count_outline condition,
    oneLinePerNode_iff condition, fun whole => ?_⟩
  rw [oneLinePerNode_iff, ← names]
  intro name listed feed
  obtain ⟨token, member, word⟩ := List.mem_map.mp (mem_wordsBeforeColon listed)
  have text : token.kind.text? = some name := by rw [word]; rfl
  exact whole (segmented_text (tokenize_eq_ok_iff.mp read) member text feed)

-- Five lines for four nodes: the break in the name divides the label of the match.
theorem name_across_lines :
    tokenize "NOT a\nb:c d" = .ok [⟨.not, 0⟩, ⟨.word "a\nb", 4⟩, ⟨.colon, 7⟩, ⟨.word "c", 8⟩,
        ⟨.word "d", 10⟩, ⟨.stop, 11⟩] ∧
      parse "NOT a\nb:c d" 1 = .ok (.or (.not (.holds "a\nb" "c")) (.term "d")) ∧
      (outline (.or (.not (.holds "a\nb" "c")) (.term "d"))).toList =
        "Or\n  Not\n    Match(a\nb: \"c\")\n  Match(\"d\")\n".toList ∧
      (outline (.or (.not (.holds "a\nb" "c")) (.term "d"))).toList.count '\n' = 4 + 1 := by
  have read : tokenize "NOT a\nb:c d" = .ok [⟨.not, 0⟩, ⟨.word "a\nb", 4⟩, ⟨.colon, 7⟩,
      ⟨.word "c", 8⟩, ⟨.word "d", 10⟩, ⟨.stop, 11⟩] := tokenize_of_found (by decide +kernel)
  have accepted : parse "NOT a\nb:c d" 1 = .ok (.or (.not (.holds "a\nb" "c")) (.term "d")) := by
    rw [parse_of_tokens read]
    rfl
  obtain ⟨lines, -, feeds, -⟩ := lines_of_accepted_query read accepted
  exact ⟨read, accepted, lines.trans (by decide +kernel), feeds⟩

/-- A name may be broken over two lines, and then its node is. -/
theorem broken_name_breaks_line :
    parse "a\nb:c" = .ok (.holds "a\nb" "c") ∧
      (outline (.holds "a\nb" "c")).toList = "Match(a\nb: \"c\")\n".toList ∧
      ¬ OneLinePerNode (.holds "a\nb" "c") := by
  have read : tokenize "a\nb:c" = .ok [⟨.word "a\nb", 0⟩, ⟨.colon, 3⟩, ⟨.word "c", 4⟩, ⟨.stop, 5⟩] :=
    tokenize_of_found (by decide +kernel)
  refine ⟨?_, ?_, ?_⟩
  · rw [parse_of_tokens read]
    rfl
  · rw [toList_outline]
    decide +kernel
  · rw [oneLinePerNode_iff]
    exact fun whole => whole "a\nb" (by decide) (by decide)

end Queries

end BoolQuery.Condition
