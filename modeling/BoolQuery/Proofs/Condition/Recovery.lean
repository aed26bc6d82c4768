import BoolQuery.Proofs.Condition.Equality
import BoolQuery.Proofs.Condition.Outline

/-! A condition is recovered from its outline. A label tells all that its node says, whatever the field
name in it is made of; the kinds of the nodes in their order tell which node is below which. -/
namespace BoolQuery.Condition
open Text

section Labels

variable {front other : List Char}

theorem bound_behind_inj {first second : Option String} (closed : front.getLast? ≠ some '\\')
    (shut : other.getLast? ≠ some '\\')
    (same : front ++ (outlineBound first).toList = other ++ (outlineBound second).toList) :
    front = other ∧ first = second := by
  -- A star and a closing quote are different last characters.
  have ends := congrArg List.getLast? same
  cases first with
  | none =>
    cases second with
    | none => exact ⟨(List.append_inj' same rfl).1, rfl⟩
    | some value => simp [outlineBound, quoted_last] at ends
  | some value =>
    cases second with
    | none => simp [outlineBound, quoted_last] at ends
    | some value' =>
      obtain ⟨fronts, values⟩ := quoted_behind_inj closed shut same
      exact ⟨fronts, congrArg some values⟩

theorem scope_inj {field name : String} (same : scope field = scope name) : field = name := by
  unfold scope at same
  by_cases noField : field = "" <;> by_cases noName : name = ""
  · rw [noField, noName]
  · simp [noField, noName] at same
  · simp [noField, noName] at same
  · rw [if_neg noField, if_neg noName] at same
    exact String.toList_inj.mp (List.append_inj' same rfl).1

theorem closed_by (front : List Char) {tail : List Char} {last : Char}
    (ends : tail.getLast? = some last) (plain : last ≠ '\\') :
    (front ++ tail).getLast? ≠ some '\\' := by
  rw [List.getLast?_append, ends]
  simpa using plain

theorem scope_closed (field : String) : ("Match(".toList ++ scope field).getLast? ≠ some '\\' := by
  unfold scope
  by_cases noField : field = ""
  · rw [if_pos noField]
    decide
  · rw [if_neg noField, ← List.append_assoc]
    exact closed_by _ rfl (by decide)

theorem holds_label_inj {field name value word : String}
    (same : outlineLabel (.holds field value) = outlineLabel (.holds name word)) :
    field = name ∧ value = word := by
  have chars := congrArg String.toList same
  rw [toList_label_holds, toList_label_holds] at chars
  have cut := (List.append_inj' chars rfl).1
  obtain ⟨heads, rfl⟩ := quoted_behind_inj (scope_closed field) (scope_closed name) cut
  exact ⟨scope_inj (List.append_cancel_left heads), rfl⟩

theorem range_label_inj {field name : String} {lower upper lower' upper' : Option String}
    {withLower withUpper withLower' withUpper' : Bool}
    (same : outlineLabel (.range field lower upper withLower withUpper) =
      outlineLabel (.range name lower' upper' withLower' withUpper')) :
    Condition.range field lower upper withLower withUpper =
      .range name lower' upper' withLower' withUpper' := by
  have chars := congrArg String.toList same
  rw [toList_label_range, toList_label_range] at chars
  -- From the right: the last mark, the upper bound, the word between, the lower bound, the first mark.
  obtain ⟨throughUpper, marks⟩ := List.append_inj' chars rfl
  have word : " TO ".toList.getLast? = some ' ' := rfl
  obtain ⟨throughTo, rfl⟩ :=
    bound_behind_inj (closed_by _ word (by decide)) (closed_by _ word (by decide)) throughUpper
  have throughLower := (List.append_inj' throughTo rfl).1
  have mark (inside : Bool) : lowerMark inside ≠ '\\' := by cases inside <;> decide
  obtain ⟨head, rfl⟩ :=
    bound_behind_inj (closed_by _ rfl (mark withLower)) (closed_by _ rfl (mark withLower')) throughLower
  obtain ⟨names, opening⟩ := List.append_inj' head rfl
  obtain rfl : field = name := String.toList_inj.mp (List.append_cancel_left names)
  have lowers : withLower = withLower' := by
    cases withLower <;> cases withLower' <;> first | rfl | exact absurd opening (by decide)
  have uppers : withUpper = withUpper' := by
    cases withUpper <;> cases withUpper' <;> first | rfl | exact absurd marks (by decide)
  rw [lowers, uppers]

theorem label_head (node : Condition) :
    node.outlineLabel.toList.head? = node.kindName.toList.head? := by
  obtain ⟨rest, split⟩ := kindName_begins node
  rw [← split, List.head?_append_of_ne_nil]
  cases node <;> simp [kindName]

/-- Nodes with one label have roots of one kind that say the same. -/
theorem sameRoot_of_label {a b : Condition} (same : a.outlineLabel = b.outlineLabel) :
    sameRoot a b = true := by
  have initial : a.kindName.toList.head? = b.kindName.toList.head? := by
    rw [← label_head, ← label_head, same]
  cases a with
  | holds field value =>
    cases b with
    | holds name word => simpa [sameRoot] using holds_label_inj same
    | _ => simp [kindName] at initial
  | range field lower upper withLower withUpper =>
    cases b with
    | range name lower' upper' withLower' withUpper' =>
      simpa [sameRoot, and_assoc] using range_label_inj same
    | _ => simp [kindName] at initial
  | and left right =>
    cases b with
    | and left' right' => rfl
    | _ => simp [kindName] at initial
  | or left right =>
    cases b with
    | or left' right' => rfl
    | _ => simp [kindName] at initial
  | not inner =>
    cases b with
    | not inner' => rfl
    | _ => simp [kindName] at initial

-- No label begins with a blank, so the blanks in front of it are known.
theorem label_of_line {first second : Condition × Nat} (same : outlineLine first = outlineLine second) :
    first.1.outlineLabel = second.1.outlineLabel := by
  have behind (node : Condition × Nat) :
      (outlineLine node).dropWhile (· = ' ') = node.1.outlineLabel.toList := by
    have begins : node.1.outlineLabel.toList.head? ≠ some ' ' := by
      rw [label_head]
      cases node.1 <;> simp [kindName]
    rw [outlineLine, List.dropWhile_append_of_pos (by simp)]
    cases label : node.1.outlineLabel.toList with
    | nil => rfl
    | cons c rest =>
      rw [label] at begins
      exact List.dropWhile_cons_of_neg (by simpa using begins)
  have labels := congrArg (List.dropWhile (· = ' ')) same
  rw [behind, behind] at labels
  exact String.toList_inj.mp labels

end Labels

section Trees

theorem nodes_children (condition : Condition) :
    condition.nodes = condition :: condition.children.flatMap nodes := by
  cases condition <;> simp [nodes, children]

theorem children_length {a b : Condition} (roots : sameRoot a b = true) :
    a.children.length = b.children.length := by
  cases a <;> cases b <;> first | rfl | cases roots

theorem eq_of_children {a b : Condition} (roots : sameRoot a b = true)
    (below : a.children = b.children) : a = b := by
  refine eq_iff_roots.mpr ⟨roots, fun pair member => ?_⟩
  rw [below, List.zip, List.zipWith_self, List.mem_map] at member
  obtain ⟨child, -, rfl⟩ := member
  rfl

/-- Trees listed one behind the other are known from the roots of all their nodes in order. -/
theorem trees_of_roots (trees others : List Condition)
    (roots : List.Forall₂ (fun a b => sameRoot a b = true) (trees.flatMap nodes)
      (others.flatMap nodes)) : trees = others := by
  match trees, others with
  | [], [] => rfl
  | [], b :: others => simp [nodes_children b] at roots
  | a :: trees, [] => simp [nodes_children a] at roots
  | a :: trees, b :: others =>
    -- The first root tells how many of the trees behind it are its children.
    rw [List.flatMap_cons, List.flatMap_cons, nodes_children a, nodes_children b, List.cons_append,
      List.cons_append, ← List.flatMap_append, ← List.flatMap_append, List.forall₂_cons] at roots
    have behind := trees_of_roots (a.children ++ trees) (b.children ++ others) roots.2
    obtain ⟨below, rfl⟩ := List.append_inj behind (children_length roots.1)
    rw [eq_of_children roots.1 below]
termination_by totalSize trees
decreasing_by
  have := totalSize_children a
  simp [totalSize_cons, totalSize_append]
  omega

end Trees

section Outlines

variable {a b : Condition}

/-- Two conditions without line breaks in their field names have one outline just when they are one
condition. -/
theorem outline_eq_iff (whole : ∀ name ∈ a.fieldNames, '\n' ∉ name.toList)
    (unbroken : ∀ name ∈ b.fieldNames, '\n' ∉ name.toList) : a.outline = b.outline ↔ a = b := by
  constructor
  · intro same
    have texts := congrArg String.toList same
    rw [toList_outline, toList_outline] at texts
    have lines := joinLines_inj ((lines_whole_iff 0 a).mpr whole) ((lines_whole_iff 0 b).mpr unbroken) texts
    rw [← List.forall₂_eq_eq_eq, List.forall₂_map_left_iff, List.forall₂_map_right_iff] at lines
    have roots : List.Forall₂ (fun node other => sameRoot node other = true) a.nodes b.nodes := by
      rw [← nodesAt_fst 0 a, ← nodesAt_fst 0 b, List.forall₂_map_left_iff, List.forall₂_map_right_iff]
      exact lines.imp fun _ _ same => sameRoot_of_label (label_of_line same)
    exact List.singleton_inj.mp (trees_of_roots [a] [b] (by simpa using roots))
  · rintro rfl
    rfl

-- A value that looks like a name and a value, and a name that looks like the beginning of one.
theorem quotes_tell_values_from_names :
    (∀ name ∈ (Condition.term "a: \"b").fieldNames, '\n' ∉ name.toList) ∧
      (∀ name ∈ (Condition.holds "\"a" "b").fieldNames, '\n' ∉ name.toList) ∧
      ((Condition.term "a: \"b").outline = (Condition.holds "\"a" "b").outline ↔
        Condition.term "a: \"b" = .holds "\"a" "b") ∧
      (Condition.term "a: \"b").outline ≠ (Condition.holds "\"a" "b").outline := by
  have whole : ∀ name ∈ (Condition.term "a: \"b").fieldNames, '\n' ∉ name.toList := by decide
  have unbroken : ∀ name ∈ (Condition.holds "\"a" "b").fieldNames, '\n' ∉ name.toList := by decide
  have same := outline_eq_iff whole unbroken
  exact ⟨whole, unbroken, same, mt same.mp (by decide)⟩

end Outlines

end BoolQuery.Condition
