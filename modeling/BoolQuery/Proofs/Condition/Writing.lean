import BoolQuery.Condition.Printer

/-! The writer keeps a stack of what is still to be written. Whatever has been written and whatever is
left on the stack, a condition comes out in between as the text that recursion on the tree gives. -/
namespace BoolQuery.Condition

section Stack

def Piece.spelled : Piece → String
  | .node condition => condition.render
  | .text words => words

/-- The text of all pieces on a stack, from its top. -/
def spelledAll : List Piece → String
  | [] => ""
  | piece :: pending => piece.spelled ++ spelledAll pending

theorem spelled_pushOperand (group : Bool) (operand : Condition) (pending : List Piece) :
    spelledAll (pushOperand group operand pending) =
      inGroup group operand.render ++ spelledAll pending := by
  cases group <;> simp [pushOperand, spelledAll, Piece.spelled, inGroup, String.append_assoc]

/-- One step of the writer: what is written and what is left on the stack make up the same text. -/
theorem writeNode_spelled (out : String) (pending : List Piece) (condition : Condition) :
    (condition.writeNode out pending).1 ++ spelledAll (condition.writeNode out pending).2 =
      out ++ condition.render ++ spelledAll pending := by
  cases condition with
  | holds field value => rfl
  | range field lower upper withLower withUpper => rfl
  | or left right =>
    simp [writeNode, spelled_pushOperand, spelledAll, Piece.spelled, render, String.append_assoc]
  | and left right =>
    simp [writeNode, spelled_pushOperand, spelledAll, Piece.spelled, render, String.append_assoc]
  | not inner =>
    simp [writeNode, spelled_pushOperand, spelledAll, Piece.spelled, render, String.append_assoc]

theorem write_spelled (out : String) (pending : List Piece) :
    write out pending = out ++ spelledAll pending := by
  induction out, pending using write.induct with
  | case1 out => simp [write, spelledAll]
  | case2 out text rest ih => rw [write, ih, spelledAll, Piece.spelled, String.append_assoc]
  | case3 out condition rest written ih =>
    rw [write, ih, writeNode_spelled, spelledAll, Piece.spelled, String.append_assoc]

theorem query_rendered (condition : Condition) : condition.toQuery = condition.render := by
  simp [toQuery, write_spelled, spelledAll, Piece.spelled]

end Stack

section Recursion

/-- A function writes conditions by recursion on the tree. Parentheses stand around the left operand of
OR when it is an OR, around an operand of AND when it is an OR, around the left one also when it is an
AND, and around the operand of NOT when it is either. -/
structure WritesByRecursion (text : Condition → String) : Prop where
  holds : ∀ field value, text (.holds field value) = fieldText field ++ valueText value
  range : ∀ field lower upper withLower withUpper,
    text (.range field lower upper withLower withUpper) =
      fieldText field ++ (if withLower then "[" else "\x7b") ++ boundText lower ++ " TO " ++
        boundText upper ++ (if withUpper then "]" else "\x7d")
  or : ∀ left right,
    text (.or left right) = inGroup left.isOr (text left) ++ " OR " ++ text right
  and : ∀ left right,
    text (.and left right) =
      inGroup (left.isOr || left.isAnd) (text left) ++ " AND " ++ inGroup right.isOr (text right)
  not : ∀ inner, text (.not inner) = "NOT " ++ inGroup (inner.isOr || inner.isAnd) (text inner)

theorem render_by_recursion : WritesByRecursion render where
  holds _ _ := rfl
  range _ _ _ _ _ := rfl
  or _ _ := rfl
  and _ _ := rfl
  not _ := rfl

variable {first second : Condition → String}

theorem WritesByRecursion.unique (one : WritesByRecursion first) (other : WritesByRecursion second) :
    first = second := by
  funext condition
  induction condition with
  | holds field value => rw [one.holds, other.holds]
  | range field lower upper withLower withUpper => rw [one.range, other.range]
  | or left right ihLeft ihRight => rw [one.or, other.or, ihLeft, ihRight]
  | and left right ihLeft ihRight => rw [one.and, other.and, ihLeft, ihRight]
  | not inner ih => rw [one.not, other.not, ih]

/-- The writer with the stack is the one function that writes conditions by recursion on the tree. It
writes a condition behind all that is written before, and in front of all that is left on the stack. -/
theorem stack_writes_by_recursion :
    (∀ text, WritesByRecursion text ↔ text = toQuery) ∧
    ∀ condition out pending,
      write out (.node condition :: pending) = out ++ condition.toQuery ++ write "" pending := by
  have rendered : toQuery = render := funext query_rendered
  constructor
  · intro text
    rw [rendered]
    constructor
    · exact fun writes => writes.unique render_by_recursion
    · rintro rfl
      exact render_by_recursion
  · intro condition out pending
    simp only [write_spelled, spelledAll, Piece.spelled, query_rendered, String.empty_append,
      String.append_assoc]

end Recursion

end BoolQuery.Condition
